import FactBase.Value
/-! Names of the things a fact base keeps: facts, templates, pattern entries and matches. -/
namespace FactBase

/-- The name of a stored fact: a storage slot, and how often the slot had been emptied before. -/
structure Handle where
  slot : Nat
  generation : UInt32
deriving DecidableEq, Inhabited, Repr

/-- The short form, `slot.generation`. -/
def Handle.short (h : Handle) : String := s!"{h.slot}.{h.generation.toNat}"

def Handle.text (h : Handle) : String := s!"<Fact-handle {h.short}>"

/-- A template's number; numbers are never used twice. -/
structure TemplateId where
  number : Nat
deriving DecidableEq, Inhabited, Repr

def TemplateId.text (t : TemplateId) : String := s!"template#{t.number}"

/-- A pattern entry's number; numbers are never used twice. -/
structure EntryId where
  number : Nat
deriving DecidableEq, Inhabited, Repr

def EntryId.text (e : EntryId) : String := s!"pattern#{e.number}"

/-- What a join network hands back for a match. -/
structure MatchId where
  number : Nat
deriving DecidableEq, Inhabited, Repr

end FactBase
