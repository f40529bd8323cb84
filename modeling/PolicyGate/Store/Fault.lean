/-!
Faults that a document store reports.
-/
namespace PolicyGate

inductive StoreFault where
  /-- The store cannot be reached. -/
  | unavailable (detail : String)
  /-- A stage or operator that the store does not run. -/
  | unsupported (what : String)
  /-- A stage or operator with an argument of the wrong shape. -/
  | invalidPipeline (detail : String)
  /-- A stored record of grants or mappings that does not decode. -/
  | invalidRecord (collection reason : String)
  /-- Data that a store cannot be opened with. -/
  | seed (detail : String)
deriving DecidableEq

namespace StoreFault

def message : StoreFault → String
  | .unavailable detail => "Store unavailable: " ++ detail
  | .unsupported what => "Unsupported by store: " ++ what
  | .invalidPipeline detail => "Invalid pipeline: " ++ detail
  | .invalidRecord collection reason => "Invalid record in " ++ collection ++ ": " ++ reason
  | .seed detail => "Failed to load seed data: " ++ detail

/-- The shape of the caller's pipeline is at fault. -/
def isClient : StoreFault → Bool
  | .unsupported _ => true
  | .invalidPipeline _ => true
  | _ => false

/-- A stage or operator takes another argument than it was given. -/
def shape (name reason : String) : StoreFault := .invalidPipeline (name ++ " " ++ reason)

def operator (name : String) : StoreFault := .unsupported ("operator " ++ name)

def stage (name : String) : StoreFault := .unsupported ("stage " ++ name)

end StoreFault
end PolicyGate
