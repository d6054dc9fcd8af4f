/-!
# Maps and sets of names

`NameMap` holds one value a name, in the order of the names. The order is part of the type, so two
maps with the same content are the same map.
-/

namespace Formwork

/-- Whether the entries of a list are in strictly ascending order of their names. -/
abbrev Ascending {α : Type} (entries : List (String × α)) : Prop :=
  entries.Pairwise fun a b => a.1 < b.1

/-- Values by name, in the order of the names. -/
structure NameMap (α : Type) where
  entries : List (String × α)
  ascending : Ascending entries

namespace NameMap

variable {α : Type}

/-- The map without entries. -/
def empty : NameMap α := ⟨[], .nil⟩

instance : Inhabited (NameMap α) := ⟨empty⟩

instance [BEq α] : BEq (NameMap α) := ⟨fun a b => a.entries == b.entries⟩

/-- The value of a name. -/
def get? (map : NameMap α) (name : String) : Option α := map.entries.lookup name

/-- Whether a name has a value. -/
def has (map : NameMap α) (name : String) : Bool := (map.get? name).isSome

/-- The names in order. -/
def names (map : NameMap α) : List String := map.entries.map (·.1)

def isEmpty (map : NameMap α) : Bool := map.entries.isEmpty

/-- Puts an entry at its place in ascending entries. -/
def place (name : String) (value : α) : List (String × α) → List (String × α)
  | [] => [(name, value)]
  | (key, old) :: rest =>
    if name < key then (name, value) :: (key, old) :: rest
    else if name = key then (name, value) :: rest
    else (key, old) :: place name value rest

theorem mem_place {name : String} {value : α} {entries : List (String × α)} {e : String × α}
    (h : e ∈ place name value entries) : e = (name, value) ∨ e ∈ entries := by
  induction entries with
  | nil => simpa [place] using h
  | cons head rest ih => grind [place]

theorem ascending_place (name : String) (value : α) {entries : List (String × α)}
    (h : Ascending entries) : Ascending (place name value entries) := by
  induction entries with
  | nil => simp [place]
  | cons head rest ih =>
    obtain ⟨key, old⟩ := head
    replace h := List.pairwise_cons.1 h
    simp only [place]
    split
    · next below => grind [List.pairwise_cons, String.lt_trans]
    · split
      · next same => subst same; exact List.pairwise_cons.2 h
      · next notBelow different =>
        refine List.pairwise_cons.2 ⟨fun e he => ?_, ih h.2⟩
        rcases mem_place he with rfl | he
        · grind
        · exact h.1 e he

/-- Gives a name a value. -/
def insert (map : NameMap α) (name : String) (value : α) : NameMap α :=
  ⟨place name value map.entries, ascending_place name value map.ascending⟩

/-- Takes the value of a name away. -/
def erase (map : NameMap α) (name : String) : NameMap α :=
  ⟨map.entries.filter fun e => e.1 != name, map.ascending.filter _⟩

/-- The map of some entries; the last value of a name counts. -/
def ofList (entries : List (String × α)) : NameMap α :=
  entries.foldl (fun map (name, value) => map.insert name value) empty

end NameMap

/-- A set of names. -/
abbrev NameSet := NameMap Unit

namespace NameSet

/-- Puts a name into a set. -/
def add (set : NameSet) (name : String) : NameSet := set.insert name ()

/-- Puts names into a set. -/
def addAll (set : NameSet) (names : List String) : NameSet := names.foldl add set

/-- The set of some names. -/
def ofNames (names : List String) : NameSet := addAll .empty names

end NameSet

end Formwork
