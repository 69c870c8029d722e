import Mathlib.Data.List.Induction
import UrlRouting.Bindings

/-!
# Bindings laid over each other

What `overlay` and `withDefaults` do to the view `get?`.  The main statements are `get?_overlay`
(what lies on top wins) and `get?_withDefaults` (what is bound already stays), both for all
bindings; `get?_setAll` is the fold that they rest on.  For entries whose names may repeat,
`keys_setAll` and `lookup_setAll` say what binding them one after the other does to both views, and
`updated_setAll` what becomes of each name.
-/

namespace UrlRouting.Bindings

variable {α : Type}

/-- A name is bound in a list of entries if it is one of their names. -/
theorem lookup_eq_none_iff_not_mem {entries : List (Text × α)} {name : Text} :
    entries.lookup name = none ↔ name ∉ entries.map Prod.fst := by
  rw [List.lookup_eq_none_iff]
  constructor
  · intro h hn
    obtain ⟨e, he, rfl⟩ := List.mem_map.1 hn
    simpa using h e he
  · intro h e he
    have hne : name ≠ e.1 := fun hc => h (hc ▸ List.mem_map_of_mem he)
    simpa using hne

/-- Among entries with distinct names, every entry is found under its name. -/
theorem lookup_of_mem {entries : List (Text × α)} (hn : (entries.map Prod.fst).Nodup)
    {name : Text} {value : α} (h : (name, value) ∈ entries) : entries.lookup name = some value := by
  induction entries with
  | nil => exact absurd h (List.not_mem_nil)
  | cons e entries ih =>
    obtain ⟨key, old⟩ := e
    rw [List.map_cons, List.nodup_cons] at hn
    rcases List.mem_cons.1 h with heq | hmem
    · cases heq
      exact List.lookup_cons_self
    · have hne : (name == key) = false := by
        have hne : name ≠ key := by
          rintro rfl
          exact hn.1 (List.mem_map.2 ⟨_, hmem, rfl⟩)
        simpa using hne
      rw [List.lookup_cons, hne]
      exact ih hn.2 hmem

/-- What is found under a name is one of the entries. -/
theorem mem_of_lookup {entries : List (Text × α)} {name : Text} {value : α}
    (h : entries.lookup name = some value) : (name, value) ∈ entries := by
  obtain ⟨before, behind, rfl, -⟩ := List.lookup_eq_some_iff.1 h
  exact List.mem_append_cons_self

/-- Among entries of which only one goes by a name, that one is found. -/
theorem lookup_of_count_eq_one {entries : List (Text × α)} {name : Text} {value : α}
    (h : (name, value) ∈ entries) (hone : (entries.map Prod.fst).count name = 1) :
    entries.lookup name = some value := by
  obtain ⟨before, behind, rfl⟩ := List.append_of_mem h
  have hbefore : before.lookup name = none := by
    rw [lookup_eq_none_iff_not_mem, ← List.count_eq_zero]
    rw [List.map_append, List.map_cons, List.count_append, List.count_cons_self] at hone
    omega
  rw [List.lookup_append, hbefore, List.lookup_cons_self]
  rfl

@[simp] theorem contains_iff_mem_keys (b : Bindings α) (name : Text) :
    b.contains name = true ↔ name ∈ b.keys := by
  rw [contains, Option.isSome_iff_ne_none, get?, Ne, lookup_eq_none_iff_not_mem,
    Decidable.not_not]
  rfl

/-- Binding entries with distinct names one after the other: they win over what was bound. -/
theorem get?_setAll {entries : List (Text × α)} (hn : (entries.map Prod.fst).Nodup)
    (b : Bindings α) (name : Text) :
    (b.setAll entries).get? name = (entries.lookup name).or (b.get? name) := by
  induction entries generalizing b with
  | nil => rfl
  | cons e entries ih =>
    obtain ⟨key, value⟩ := e
    rw [List.map_cons, List.nodup_cons] at hn
    have hstep : (b.setAll ((key, value) :: entries)).get? name
        = ((b.set key value).setAll entries).get? name := rfl
    rw [hstep, ih hn.2, get?_set, List.lookup_cons]
    by_cases h : name = key
    · subst h
      have hnone : entries.lookup name = none := lookup_eq_none_iff_not_mem.2 hn.1
      simp [hnone]
    · have hne : (name == key) = false := by simpa using h
      simp [h, hne]

/-- Bindings laid over others win, and what they do not bind stays. -/
theorem get?_overlay (base top : Bindings α) (name : Text) :
    (base.overlay top).get? name = (top.get? name).or (base.get? name) :=
  get?_setAll top.nodup base name

/-- A new name goes to the end. -/
theorem setEntry_of_not_mem {entries : List (Text × α)} {name : Text} (value : α)
    (h : name ∉ entries.map Prod.fst) : setEntry name value entries = entries ++ [(name, value)] := by
  induction entries with
  | nil => rfl
  | cons e entries ih =>
    obtain ⟨key, old⟩ := e
    rw [List.map_cons, List.mem_cons, not_or] at h
    rw [setEntry, if_neg (Ne.symm h.1), ih h.2, List.cons_append]

/-- Binding new names one after the other appends their entries. -/
theorem entries_setAll {b : Bindings α} {entries : List (Text × α)}
    (h : (b.keys ++ entries.map Prod.fst).Nodup) :
    (b.setAll entries).entries = b.entries ++ entries := by
  induction entries generalizing b with
  | nil => exact (List.append_nil _).symm
  | cons e entries ih =>
    obtain ⟨key, value⟩ := e
    have hkey : key ∉ b.keys := fun hc =>
      (List.nodup_append.1 h).2.2 key hc key List.mem_cons_self rfl
    have hentries : (b.set key value).entries = b.entries ++ [(key, value)] :=
      setEntry_of_not_mem value hkey
    have hkeys : (b.set key value).keys = b.keys ++ [key] := by
      rw [keys_set, if_neg hkey]
    have hstep : b.setAll ((key, value) :: entries) = (b.set key value).setAll entries := rfl
    rw [hstep, ih (by rw [hkeys]; simpa using h), hentries]
    simp

/-- Laying bindings over nothing leaves them as they are. -/
@[simp] theorem empty_overlay (b : Bindings α) : empty.overlay b = b := by
  have hentries : (empty.overlay b).entries = b.entries := by
    rw [overlay, entries_setAll (by rw [keys_empty]; exact b.nodup)]
    rfl
  cases hb : empty.overlay b
  cases b
  simp_all

/-- Defaults are bound where nothing is bound yet. -/
theorem get?_withDefaults (b defaults : Bindings α) (name : Text) :
    (b.withDefaults defaults).get? name = (b.get? name).or (defaults.get? name) := by
  have fold : ∀ (entries : List (Text × α)), (entries.map Prod.fst).Nodup → ∀ b : Bindings α,
      (entries.foldl (fun b e => if b.contains e.1 then b else b.set e.1 e.2) b).get? name
        = (b.get? name).or (entries.lookup name) := by
    intro entries
    induction entries with
    | nil => intro _ b; simp
    | cons e entries ih =>
      obtain ⟨key, value⟩ := e
      intro hn b
      rw [List.map_cons, List.nodup_cons] at hn
      rw [List.foldl_cons, ih hn.2, List.lookup_cons]
      by_cases h : name = key
      · subst h
        have hnone : entries.lookup name = none := lookup_eq_none_iff_not_mem.2 hn.1
        cases hb : b.get? name <;> simp [contains, hb, hnone, get?_set]
      · have hne : (name == key) = false := by simpa using h
        by_cases hb : b.contains key = true <;> simp [hb, hne, h, get?_set]
  exact fold defaults.entries defaults.nodup b

/-! ## Entries whose names may repeat -/

theorem setAll_concat (b : Bindings α) (entries : List (Text × α)) (e : Text × α) :
    b.setAll (entries ++ [e]) = (b.setAll entries).set e.1 e.2 :=
  List.foldl_append ..

/-- The last of several entries for a name counts, and without one what was bound before. -/
theorem lookup_setAll (b : Bindings α) (entries : List (Text × α)) (name : Text) :
    (b.setAll entries).get? name = (entries.reverse.lookup name).or (b.get? name) := by
  induction entries using List.reverseRecOn with
  | nil => rfl
  | append_singleton entries e ih =>
    rw [setAll_concat, get?_set, List.reverse_append, List.reverse_singleton,
      List.singleton_append, List.lookup_cons, ih]
    by_cases h : name = e.1
    · simp [h]
    · have hne : (name == e.1) = false := by simpa using h
      simp [h, hne]

/-- From behind too, a name is found among entries if it is one of their names. -/
theorem lookup_reverse_eq_none_iff_not_mem {entries : List (Text × α)} {name : Text} :
    entries.reverse.lookup name = none ↔ name ∉ entries.map Prod.fst := by
  rw [lookup_eq_none_iff_not_mem, List.map_reverse, List.mem_reverse]

/-- The names that were bound keep their places, and the new ones follow in the order in which they
first occur. -/
theorem keys_setAll (b : Bindings α) (entries : List (Text × α)) :
    (b.setAll entries).keys =
      b.keys ++ (entries.map Prod.fst).eraseDups.filter (!b.contains ·) := by
  induction entries using List.reverseRecOn with
  | nil => simp [setAll]
  | append_singleton entries e ih =>
    have hmem : e.1 ∈ (b.setAll entries).keys ↔ e.1 ∈ b.keys ∨ e.1 ∈ entries.map Prod.fst := by
      rw [ih, List.mem_append, List.mem_filter, List.mem_eraseDups, Bool.not_eq_true',
        ← Bool.not_eq_true, contains_iff_mem_keys]
      tauto
    rw [setAll_concat, keys_set, List.map_append, List.eraseDups_append, List.filter_append,
      ← List.append_assoc, ← ih]
    by_cases hseen : e.1 ∈ entries.map Prod.fst
    · have hnone : ([e].map Prod.fst).removeAll (entries.map Prod.fst) = [] := by
        simpa [List.removeAll] using hseen
      rw [if_pos (hmem.2 (.inr hseen)), hnone]
      exact (List.append_nil _).symm
    · have hone : ([e].map Prod.fst).removeAll (entries.map Prod.fst) = [e.1] := by
        simpa [List.removeAll] using hseen
      rw [hone]
      by_cases hbound : e.1 ∈ b.keys
      · have hcontains := (b.contains_iff_mem_keys e.1).2 hbound
        rw [if_pos (hmem.2 (.inl hbound))]
        simp [List.eraseDups_cons, hcontains]
      · have hcontains : b.contains e.1 = false := by
          rwa [← Bool.not_eq_true, contains_iff_mem_keys]
        rw [if_neg (fun h => (hmem.1 h).elim hbound hseen)]
        simp [List.eraseDups_cons, hcontains]

/-- The names of bindings that entries leave: each once, in the order in which they first
occur. -/
theorem keys_ofList (entries : List (Text × α)) :
    (ofList entries).keys = (entries.map Prod.fst).eraseDups := by
  rw [ofList, keys_setAll, keys_empty, List.nil_append, List.filter_eq_self]
  exact fun _ _ => rfl

/-- The names of bindings laid over others: the new ones follow those that were there. -/
theorem keys_overlay (base top : Bindings α) :
    (base.overlay top).keys = base.keys ++ top.keys.filter (!base.contains ·) := by
  have hself : ofList top.entries = top := empty_overlay top
  have hdistinct : top.keys = (top.entries.map Prod.fst).eraseDups := by
    rw [← keys_ofList, hself]
  rw [overlay, keys_setAll, hdistinct]

/-- Bindings become other ones by entries that are bound one after the other. -/
structure Updated (b : Bindings α) (entries : List (Text × α)) (b' : Bindings α) : Prop where
  /-- Names that were bound keep their places, and new ones follow as they first occur. -/
  keys_eq : b'.keys = b.keys ++ (entries.map Prod.fst).eraseDups.filter (!b.contains ·)
  /-- A name that is bound anew goes by its last entry. -/
  last_wins : ∀ before name value behind, entries = before ++ (name, value) :: behind →
    name ∉ behind.map Prod.fst → b'.get? name = some value
  /-- All other names are bound as before. -/
  others_kept : ∀ name ∉ entries.map Prod.fst, b'.get? name = b.get? name

/-- Binding entries one after the other changes what they name, and nothing else. -/
theorem updated_setAll (b : Bindings α) (entries : List (Text × α)) :
    b.Updated entries (b.setAll entries) where
  keys_eq := keys_setAll b entries
  last_wins := by
    rintro before name value behind rfl hlast
    have hbehind : behind.reverse.lookup name = none :=
      lookup_reverse_eq_none_iff_not_mem.2 hlast
    rw [lookup_setAll, List.reverse_append, List.reverse_cons, List.lookup_append,
      List.lookup_append, hbehind, List.lookup_cons_self]
    rfl
  others_kept := by
    intro name hname
    rw [lookup_setAll, lookup_reverse_eq_none_iff_not_mem.2 hname, Option.none_or]

end UrlRouting.Bindings
