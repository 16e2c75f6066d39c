/-! # Where reports and listings are written -/

namespace ShaderLiterals

structure Sink where
  /-- What was written so far. -/
  text : String
  /-- Whether every write of some text fails. -/
  isBroken : Bool
deriving DecidableEq, Repr

namespace Sink

def working : Sink := ⟨"", false⟩

def broken : Sink := ⟨"", true⟩

/-- The sink with more text written to it, unless the write fails. -/
def write (sink : Sink) (text : String) : Option Sink :=
  if sink.isBroken && !text.isEmpty then none
  else some { sink with text := sink.text ++ text }

@[simp] theorem write_working (text more : String) :
    (Sink.mk text false).write more = some ⟨text ++ more, false⟩ := rfl

theorem write_broken {text more : String} (h : more ≠ "") :
    (Sink.mk text true).write more = none := by
  simp [write, h]

end Sink

end ShaderLiterals
