namespace RuleSmith.Language

structure Place where
  start : List Char
  stop : List Char
deriving DecidableEq, Inhabited

def Place.through (first last : Place) : Place := ⟨first.start, last.stop⟩

structure Located (α : Type) where
  value : α
  place : Place
deriving DecidableEq, Inhabited

def offset (source unread : List Char) : Nat := source.length - unread.length

def Place.text (place : Place) : List Char := place.start.take (offset place.start place.stop)

end RuleSmith.Language
