import Telemetry.Keyed

/-!
# Attributes

Texts under keys, each key once. Two collections that give the same for every key are equal
(`Attributes.ext_get?`), so a collection is known by what `get?` says of it.
-/

namespace Telemetry

/-- Texts under keys. -/
structure Attributes where
  /-- The entries, in the order of their keys. -/
  entries : List (String × String)
  /-- The keys ascend, so each stands once. -/
  ascending : Keyed.Ascending entries

namespace Attributes

/-- No entries. -/
def empty : Attributes := ⟨[], .nil⟩

/-- What stands under a key. -/
def get? (attributes : Attributes) (key : String) : Option String :=
  Keyed.get? key attributes.entries

/-- Whether something stands under a key. -/
def contains (attributes : Attributes) (key : String) : Bool := (attributes.get? key).isSome

/-- Puts a text under a key, in place of what stood there. -/
def insert (attributes : Attributes) (key value : String) : Attributes :=
  ⟨Keyed.insert key value attributes.entries, attributes.ascending.insert⟩

/-- Removes what stands under a key. -/
def erase (attributes : Attributes) (key : String) : Attributes :=
  ⟨Keyed.erase key attributes.entries, attributes.ascending.erase⟩

/-- The given texts under their keys; of those with the same key the last counts. -/
def ofList (entries : List (String × String)) : Attributes :=
  ⟨Keyed.ofList entries, .ofList entries⟩

/-- Puts in the entries, one after another. -/
def insertMany (attributes : Attributes) (entries : List (String × String)) : Attributes :=
  entries.foldl (fun acc e => acc.insert e.1 e.2) attributes

/-- Attributes that give the same for every key are the same. -/
@[ext] theorem ext_get? {a b : Attributes} (h : ∀ key, a.get? key = b.get? key) : a = b := by
  obtain ⟨entries, ascending⟩ := a
  obtain ⟨entries', ascending'⟩ := b
  have : entries = entries' := Keyed.ext_get? ascending ascending' h
  subst this
  rfl

instance : DecidableEq Attributes := fun a b =>
  if h : a.entries = b.entries then
    isTrue (by cases a; cases b; cases h; rfl)
  else isFalse (fun hab => h (hab ▸ rfl))

theorem get?_insert (attributes : Attributes) (key value k : String) :
    (attributes.insert key value).get? k = if k = key then some value else attributes.get? k :=
  Keyed.get?_insert key k value attributes.entries

theorem get?_erase (attributes : Attributes) (key k : String) :
    (attributes.erase key).get? k = if k = key then none else attributes.get? k :=
  Keyed.get?_erase key k attributes.ascending

end Attributes

end Telemetry
