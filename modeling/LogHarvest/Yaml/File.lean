import LogHarvest.Fault
import LogHarvest.Text.Utf8
import LogHarvest.Yaml.Meaning

/-!
# YAML files
-/

namespace LogHarvest.Yaml

/-- A fault of a document, as those know it who only read files. -/
def Fault.ofFile (fault : Fault) : DocumentFault := ⟨fault.ofDocument, fault.kind, fault.message⟩

/-- The value of the file with the given content. It is decoded as a whole before anything is made of it. -/
def readFile (depthLimit : Nat) (content : Bytes) : Except DocumentFault Value :=
  match Text.ofFile? content with
  | none => .error ⟨false, LogHarvest.Fault.undecodable.kind, LogHarvest.Fault.undecodable.message⟩
  | some text => (load depthLimit text).mapError Fault.ofFile

end LogHarvest.Yaml
