import UrlRouting.Text.Ranges

/-!
# Bindings

A finite map from names to things that remembers the order in which its names were first set.
Setting a bound name again keeps its place: `keys_set` and `get?_set` say what `set` does to
the two views `keys` and `get?`.
-/

namespace UrlRouting

/-- Names bound to things, each name once, in the order they were first bound. -/
structure Bindings (α : Type) where
  entries : List (Text × α)
  nodup : (entries.map Prod.fst).Nodup

namespace Bindings

variable {α β : Type}

/-- Sets a name in a list of entries: in place if it occurs, at the end otherwise. -/
def setEntry (name : Text) (value : α) : List (Text × α) → List (Text × α)
  | [] => [(name, value)]
  | (key, old) :: entries =>
      if key = name then (name, value) :: entries else (key, old) :: setEntry name value entries

/-- Setting a name adds it to the names unless it is there. -/
theorem keys_setEntry (name : Text) (value : α) (entries : List (Text × α)) :
    (setEntry name value entries).map Prod.fst =
      if name ∈ entries.map Prod.fst then entries.map Prod.fst
      else entries.map Prod.fst ++ [name] := by
  induction entries with
  | nil => simp [setEntry]
  | cons e entries ih =>
    obtain ⟨key, old⟩ := e
    by_cases h : key = name
    · simp [setEntry, h]
    · simp only [setEntry, h, if_false, List.map_cons, ih, List.mem_cons, Ne.symm h, false_or]
      split <;> simp

/-- Setting a name keeps the names apart. -/
theorem nodup_setEntry {name : Text} {value : α} {entries : List (Text × α)}
    (h : (entries.map Prod.fst).Nodup) : ((setEntry name value entries).map Prod.fst).Nodup := by
  rw [keys_setEntry]
  split
  · exact h
  · next hn => exact List.nodup_append.2 ⟨h, by simp, by rintro a ha b hb rfl; simp_all⟩

/-- Nothing is bound. -/
def empty : Bindings α := ⟨[], List.nodup_nil⟩

/-- Binds a name, in its old place if it has one and at the end otherwise. -/
def set (b : Bindings α) (name : Text) (value : α) : Bindings α :=
  ⟨setEntry name value b.entries, nodup_setEntry b.nodup⟩

/-- The names in order. -/
def keys (b : Bindings α) : List Text := b.entries.map Prod.fst

/-- What a name is bound to. -/
def get? (b : Bindings α) (name : Text) : Option α := b.entries.lookup name

/-- Whether a name is bound. -/
def contains (b : Bindings α) (name : Text) : Bool := (b.get? name).isSome

/-- Binds the entries of a list one after the other. -/
def setAll (b : Bindings α) (entries : List (Text × α)) : Bindings α :=
  entries.foldl (fun b e => b.set e.1 e.2) b

/-- The bindings that a list of entries leaves: a name that occurs again keeps its first place
and takes its last value. -/
def ofList (entries : List (Text × α)) : Bindings α := empty.setAll entries

/-- The bindings `top` laid over `base`: they win, and their new names follow those of `base`. -/
def overlay (base top : Bindings α) : Bindings α := base.setAll top.entries

/-- Binds the names of `defaults` that are not bound yet. -/
def withDefaults (b defaults : Bindings α) : Bindings α :=
  defaults.entries.foldl (fun b e => if b.contains e.1 then b else b.set e.1 e.2) b

/-! ## The views `keys` and `get?` -/

@[simp] theorem keys_empty : (empty : Bindings α).keys = [] := rfl

@[simp] theorem get?_empty (name : Text) : (empty : Bindings α).get? name = none := rfl

/-- Setting a name adds it at the end of the names unless it is there. -/
theorem keys_set (b : Bindings α) (name : Text) (value : α) :
    (b.set name value).keys = if name ∈ b.keys then b.keys else b.keys ++ [name] :=
  keys_setEntry name value b.entries

theorem lookup_setEntry (name other : Text) (value : α) (entries : List (Text × α)) :
    (setEntry name value entries).lookup other =
      if other = name then some value else entries.lookup other := by
  induction entries with
  | nil =>
    by_cases h : other = name
    · simp [setEntry, h]
    · have : (other == name) = false := by simpa using h
      simp [setEntry, List.lookup_cons, h, this]
  | cons e entries ih =>
    obtain ⟨key, old⟩ := e
    by_cases h : other = key
    · subst h
      by_cases hk : other = name <;> simp [setEntry, hk]
    · have : (other == key) = false := by simpa using h
      by_cases hk : key = name
      · subst hk
        simp [setEntry, List.lookup_cons, h, this]
      · simp [setEntry, hk, List.lookup_cons, this, ih]

/-- After setting a name it is bound to the new value, and every other name as before. -/
theorem get?_set (b : Bindings α) (name other : Text) (value : α) :
    (b.set name value).get? other = if other = name then some value else b.get? other :=
  lookup_setEntry name other value b.entries

end Bindings

end UrlRouting
