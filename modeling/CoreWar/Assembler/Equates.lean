import CoreWar.Text.Numeral

/-!
# Equates

Equates give texts to names, in a table sorted by name. An expression sees those that are numerals
of machine words.
-/

namespace CoreWar

/-- A table of names and their texts, sorted by name. -/
structure Equates where
  entries : List (Text × Text)
  deriving DecidableEq, Repr

namespace Equates

def empty : Equates := ⟨[]⟩

def insertEntry (name value : Text) : List (Text × Text) → List (Text × Text)
  | [] => [(name, value)]
  | entry :: rest =>
    if name = entry.1 then (name, value) :: rest
    else if name < entry.1 then (name, value) :: entry :: rest
    else entry :: insertEntry name value rest

def insert (e : Equates) (name value : Text) : Equates :=
  ⟨insertEntry name value e.entries⟩

def insertAll (e : Equates) (more : List (Text × Text)) : Equates :=
  more.foldl (fun e entry => e.insert entry.1 entry.2) e

def text? (e : Equates) (name : Text) : Option Text :=
  e.entries.lookup name

/-- The machine word of a name, if its text is the numeral of one. -/
def value? (e : Equates) (name : Text) : Option Int64 :=
  (e.text? name).bind fun t => (Numeral.signed t).toOption

end Equates

end CoreWar
