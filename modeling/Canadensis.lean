import Canadensis.Core.Basic
import Canadensis.Encoding.Cursor
import Canadensis.Encoding.BitArray
import Canadensis.Encoding.Lemmas.BitArray
import Canadensis.Encoding.Theorems
import Canadensis.Serial.Transmit
import Canadensis.Serial.Theorems
import Canadensis.Can.RedundantQueue
import Canadensis.Can.Theorems
import Canadensis.BxCan.Driver
import Canadensis.BxCan.Lemmas.Driver
import Canadensis.BxCan.Theorems
import Canadensis.Codegen.ModuleTree
import Canadensis.Codegen.Lemmas.ModuleTree
import Canadensis.Codegen.ExternalModule
import Canadensis.Codegen.Generate
import Canadensis.Codegen.Lemmas.Generate
import Canadensis.Codegen.Theorems
