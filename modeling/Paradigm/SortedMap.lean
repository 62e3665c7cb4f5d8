/-!
# Maps sorted by key

Entries are kept strictly increasing in their keys, by code point, so two maps with the same
look-ups are the same map. Main statements: `get?_insert`, `get?_ofList` and `ext_get?`.
-/

namespace Paradigm

/-- Keys strictly increase along the list. -/
def KeysIncrease {α : Type} (entries : List (String × α)) : Prop :=
  entries.Pairwise fun a b => a.1 < b.1

/-- A finite map from names to values, listed in the order of the names. -/
structure SortedMap (α : Type) where
  entries : List (String × α)
  increasing : KeysIncrease entries

namespace SortedMap

variable {α β : Type}

/-! ## Entries -/

/-- Puts a pair at its place in the order; a pair with the same key is replaced. -/
def insertEntry (key : String) (value : α) : List (String × α) → List (String × α)
  | [] => [(key, value)]
  | (k, v) :: rest =>
    if key < k then (key, value) :: (k, v) :: rest
    else if k < key then (k, v) :: insertEntry key value rest
    else (key, value) :: rest

theorem fst_of_mem_insertEntry {key : String} {value : α} {p : String × α} :
    ∀ {es : List (String × α)}, p ∈ insertEntry key value es → p = (key, value) ∨ p ∈ es
  | [], h => by simp_all [insertEntry]
  | (k, v) :: rest, h => by
    simp only [insertEntry] at h
    split at h
    · simpa using h
    · split at h
      · rcases List.mem_cons.mp h with h | h
        · exact .inr (h ▸ List.mem_cons_self)
        · exact (fst_of_mem_insertEntry h).imp id (List.mem_cons_of_mem _)
      · rcases List.mem_cons.mp h with h | h
        · exact .inl h
        · exact .inr (List.mem_cons_of_mem _ h)

theorem KeysIncrease.insertEntry {key : String} {value : α} :
    ∀ {es : List (String × α)}, KeysIncrease es → KeysIncrease (insertEntry key value es)
  | [], _ => by simp [SortedMap.insertEntry, KeysIncrease]
  | (k, v) :: rest, h => by
    obtain ⟨hk, hrest⟩ := List.pairwise_cons.mp h
    simp only [SortedMap.insertEntry]
    split
    · rename_i lt
      refine List.pairwise_cons.mpr ⟨fun p hp => ?_, h⟩
      rcases List.mem_cons.mp hp with rfl | hp
      · exact lt
      · exact String.lt_trans lt (hk p hp)
    · rename_i notLt
      split
      · rename_i gt
        refine List.pairwise_cons.mpr ⟨fun p hp => ?_, KeysIncrease.insertEntry hrest⟩
        rcases fst_of_mem_insertEntry hp with rfl | hp
        · exact gt
        · exact hk p hp
      · rename_i notGt
        have same := Std.Trichotomous.trichotomous _ _ notLt notGt
        exact List.pairwise_cons.mpr ⟨fun p hp => same ▸ hk p hp, hrest⟩

def findEntry (key : String) : List (String × α) → Option α
  | [] => none
  | (k, v) :: rest => if key = k then some v else findEntry key rest

/-! ## Operations -/

def empty : SortedMap α := ⟨[], .nil⟩

instance : Inhabited (SortedMap α) := ⟨empty⟩

instance [DecidableEq α] : DecidableEq (SortedMap α) := fun a b =>
  decidable_of_iff (a.entries = b.entries) ⟨fun h => by cases a; cases b; simp_all, fun h => h ▸ rfl⟩

/-- The value of a key, if the map has one. -/
def get? (m : SortedMap α) (key : String) : Option α := findEntry key m.entries

def contains (m : SortedMap α) (key : String) : Bool := (m.get? key).isSome

/-- Sets the value of a key. -/
def insert (m : SortedMap α) (key : String) (value : α) : SortedMap α :=
  ⟨insertEntry key value m.entries, KeysIncrease.insertEntry m.increasing⟩

def size (m : SortedMap α) : Nat := m.entries.length

def isEmpty (m : SortedMap α) : Bool := m.entries.isEmpty

def keys (m : SortedMap α) : List String := m.entries.map (·.1)

/-- Inserts the pairs in turn, so the last pair of a key stays. -/
def insertMany (m : SortedMap α) (pairs : List (String × α)) : SortedMap α :=
  pairs.foldl (fun m p => m.insert p.1 p.2) m

/-- The map of some pairs; the last pair of a key stays. -/
def ofList (pairs : List (String × α)) : SortedMap α := empty.insertMany pairs

def map (f : α → β) (m : SortedMap α) : SortedMap β where
  entries := m.entries.map fun p => (p.1, f p.2)
  increasing := by
    rw [KeysIncrease, List.pairwise_map]
    exact m.increasing

/-- All entries of both maps; those of `m` win. -/
def orElse (m other : SortedMap α) : SortedMap α := other.insertMany m.entries

/-! ## Look-ups -/

@[simp] theorem get?_empty (key : String) : (empty : SortedMap α).get? key = none := rfl

theorem findEntry_insertEntry {key : String} {value : α} (k : String) :
    ∀ es : List (String × α),
      findEntry k (insertEntry key value es) = if k = key then some value else findEntry k es
  | [] => by simp [insertEntry, findEntry]
  | (k', v) :: rest => by
    have ih := @findEntry_insertEntry key value k rest
    simp only [insertEntry]
    split
    · rfl
    · split
      · rename_i gt
        simp only [findEntry, ih]
        by_cases e : k = k'
        · subst e
          have ne : k ≠ key := fun e => String.lt_irrefl _ (e ▸ gt)
          simp [ne]
        · simp [e]
      · rename_i notLt notGt
        have same := Std.Trichotomous.trichotomous _ _ notLt notGt
        subst same
        by_cases e : k = key <;> simp [findEntry, e]

theorem get?_insert (m : SortedMap α) (key : String) (value : α) (k : String) :
    (m.insert key value).get? k = if k = key then some value else m.get? k :=
  findEntry_insertEntry k m.entries

@[simp] theorem get?_insert_self (m : SortedMap α) (key : String) (value : α) :
    (m.insert key value).get? key = some value := by
  simp [get?_insert]

theorem get?_insert_of_ne {k key : String} (m : SortedMap α) (value : α) (h : k ≠ key) :
    (m.insert key value).get? k = m.get? k := by
  simp [get?_insert, h]

/-- Of several pairs with one key the last counts. -/
theorem get?_insertMany (m : SortedMap α) (pairs : List (String × α)) (k : String) :
    (m.insertMany pairs).get? k = (pairs.reverse.lookup k).or (m.get? k) := by
  induction pairs generalizing m with
  | nil => rfl
  | cons p pairs ih =>
    obtain ⟨key, value⟩ := p
    have step := ih (m.insert key value)
    simp only [insertMany, List.foldl_cons, get?_insert] at step ⊢
    rw [step, List.reverse_cons, List.lookup_append, Option.or_assoc]
    by_cases e : k = key
    · simp [e]
    · have differ : (k == key) = false := by simp [e]
      simp [List.lookup_cons, e, differ]

theorem get?_ofList (pairs : List (String × α)) (k : String) :
    (ofList pairs).get? k = pairs.reverse.lookup k := by
  simp [ofList, get?_insertMany]

theorem get?_ofList_cons (key : String) (value : α) (pairs : List (String × α)) (k : String) :
    (ofList ((key, value) :: pairs)).get? k =
      ((ofList pairs).get? k).or (if k = key then some value else none) := by
  show ((empty.insert key value).insertMany pairs).get? k = _
  rw [get?_insertMany, get?_insert, get?_empty, get?_ofList]

theorem get?_insertMany_of_fresh {pairs : List (String × α)} {k : String} (m : SortedMap α)
    (fresh : ∀ p ∈ pairs, p.1 ≠ k) : (m.insertMany pairs).get? k = m.get? k := by
  have absent : pairs.reverse.lookup k = none := by
    refine List.lookup_eq_none_iff.mpr fun p h => ?_
    simpa using (fresh p (List.mem_reverse.mp h)).symm
  rw [get?_insertMany, absent, Option.none_or]

theorem get?_insertMany_of_mem {k : String} {v : α} :
    ∀ {pairs : List (String × α)} (m : SortedMap α), (pairs.map (·.1)).Nodup → (k, v) ∈ pairs →
      (m.insertMany pairs).get? k = some v
  | p :: pairs, m, distinct, h => by
    obtain ⟨fresh, distinct⟩ := List.nodup_cons.mp distinct
    rcases List.mem_cons.mp h with rfl | h
    · have rest : ∀ q ∈ pairs, q.1 ≠ k := fun q hq e => fresh (List.mem_map.mpr ⟨q, hq, e⟩)
      exact (get?_insertMany_of_fresh _ rest).trans (get?_insert_self ..)
    · exact get?_insertMany_of_mem (m.insert p.1 p.2) distinct h

theorem mem_iff_findEntry {k : String} {v : α} {es : List (String × α)} (h : KeysIncrease es) :
    (k, v) ∈ es ↔ findEntry k es = some v := by
  induction es with
  | nil => simp [findEntry]
  | cons p rest ih =>
    obtain ⟨k', v'⟩ := p
    obtain ⟨hk, hrest⟩ := List.pairwise_cons.mp h
    by_cases e : k = k'
    · subst e
      have fresh : (k, v) ∉ rest := fun hm => String.lt_irrefl _ (hk (k, v) hm)
      simp [findEntry, fresh, eq_comm]
    · simp [findEntry, e, ih hrest]

theorem mem_entries_iff {m : SortedMap α} {k : String} {v : α} :
    (k, v) ∈ m.entries ↔ m.get? k = some v :=
  mem_iff_findEntry m.increasing

section

variable {m : SortedMap α} {before after : List (String × α)} {key : String} {value : α}

/-- The entries before one entry are those with smaller keys. -/
theorem mem_before_iff (split : m.entries = before ++ (key, value) :: after) {k : String} {v : α} :
    (k, v) ∈ before ↔ k < key ∧ m.get? k = some v := by
  have increasing := m.increasing
  rw [split] at increasing
  obtain ⟨_, last, apart⟩ := List.pairwise_append.mp increasing
  rw [← mem_entries_iff, split, List.mem_append]
  refine ⟨fun h => ⟨apart _ h _ List.mem_cons_self, .inl h⟩, fun ⟨less, h⟩ => ?_⟩
  refine h.resolve_right fun h => ?_
  rcases List.mem_cons.mp h with h | h
  · cases h
    exact String.lt_irrefl _ less
  · exact String.lt_asymm less ((List.pairwise_cons.mp last).1 _ h)

theorem findEntry_before (split : m.entries = before ++ (key, value) :: after) (k : String) :
    findEntry k before = if k < key then m.get? k else none := by
  have increasing := m.increasing
  rw [split] at increasing
  refine Option.ext fun v => ?_
  rw [← mem_iff_findEntry (List.pairwise_append.mp increasing).1, mem_before_iff split]
  by_cases less : k < key <;> simp [less]

end

theorem mem_keys_iff {m : SortedMap α} {k : String} : k ∈ m.keys ↔ (m.get? k).isSome := by
  rw [Option.isSome_iff_exists]
  simp [keys, mem_entries_iff]

theorem keys_pairwise_lt (m : SortedMap α) : m.keys.Pairwise (· < ·) :=
  List.pairwise_map.mpr m.increasing

theorem keys_nodup (m : SortedMap α) : m.keys.Nodup :=
  m.keys_pairwise_lt.imp String.ne_of_lt

/-- The key that a search finds is the least one that passes the test. -/
theorem of_find?_keys {test : String → Bool} {m : SortedMap α} {first : String}
    (h : m.keys.find? test = some first) :
    m.contains first ∧ test first = true ∧ ∀ k < first, m.contains k → test k = false := by
  obtain ⟨passes, before, after, split, others⟩ := List.find?_eq_some_iff_append.mp h
  have increasing := m.keys_pairwise_lt
  rw [split] at increasing
  obtain ⟨_, later, _⟩ := List.pairwise_append.mp increasing
  refine ⟨mem_keys_iff.mp (by simp [split]), passes, fun k less here => ?_⟩
  have member : k ∈ m.keys := mem_keys_iff.mpr here
  rw [split] at member
  rcases List.mem_append.mp member with member | member
  · simpa using others k member
  · rcases List.mem_cons.mp member with rfl | member
    · cases String.lt_irrefl _ less
    · cases String.lt_asymm less ((List.pairwise_cons.mp later).1 k member)

theorem get?_map (f : α → β) (m : SortedMap α) (k : String) :
    (m.map f).get? k = (m.get? k).map f := by
  show findEntry k (m.entries.map fun p => (p.1, f p.2)) = (findEntry k m.entries).map f
  induction m.entries with
  | nil => rfl
  | cons p rest ih =>
    simp only [List.map_cons, findEntry, ih]
    split
    · rfl
    · rfl

/-- The entries of `m` win. -/
theorem get?_orElse (m other : SortedMap α) (k : String) :
    (m.orElse other).get? k = (m.get? k).or (other.get? k) := by
  rcases known : m.get? k with _ | v
  · rw [orElse, get?_insertMany_of_fresh, Option.none_or]
    rintro ⟨k', v⟩ h rfl
    cases known.symm.trans (mem_entries_iff.mp h)
  · rw [orElse, get?_insertMany_of_mem _ m.keys_nodup (mem_entries_iff.mpr known), Option.some_or]

/-! ## Traversal -/

/-- Applies a function that may fail to each entry, in order. -/
def traverseEntries {ε : Type} (f : String → α → Except ε β) :
    List (String × α) → Except ε (List (String × β))
  | [] => .ok []
  | (k, v) :: rest =>
    match f k v with
    | .error e => .error e
    | .ok w => (traverseEntries f rest).map ((k, w) :: ·)

theorem keys_traverseEntries {ε : Type} {f : String → α → Except ε β} :
    ∀ {es : List (String × α)} {fs : List (String × β)},
      traverseEntries f es = .ok fs → fs.map (·.1) = es.map (·.1)
  | [], fs, h => by
    simp only [traverseEntries, Except.ok.injEq] at h
    subst h
    rfl
  | (k, v) :: rest, fs, h => by
    simp only [traverseEntries] at h
    split at h
    · cases h
    · cases hr : traverseEntries f rest with
      | error e => simp [hr, Except.map] at h
      | ok gs =>
        simp only [hr, Except.map, Except.ok.injEq] at h
        subst h
        simp [keys_traverseEntries hr]

theorem KeysIncrease.of_keys {es : List (String × α)} {fs : List (String × β)}
    (h : KeysIncrease es) (same : fs.map (·.1) = es.map (·.1)) : KeysIncrease fs := by
  have hes : (es.map (·.1)).Pairwise (· < ·) := List.pairwise_map.mpr h
  rw [← same] at hes
  exact List.pairwise_map.mp hes

/-- Applies a function that may fail to the entries in order; the first failure is the outcome. -/
def traverse {ε : Type} (f : String → α → Except ε β) (m : SortedMap α) :
    Except ε (SortedMap β) :=
  match h : traverseEntries f m.entries with
  | .error e => .error e
  | .ok es => .ok ⟨es, KeysIncrease.of_keys m.increasing (keys_traverseEntries h)⟩

/-! ## Extensionality -/

theorem entries_eq_of_mem_iff :
    ∀ {es fs : List (String × α)}, KeysIncrease es → KeysIncrease fs →
      (∀ p, p ∈ es ↔ p ∈ fs) → es = fs
  | [], [], _, _, _ => rfl
  | [], q :: fs, _, _, h => absurd ((h q).mpr List.mem_cons_self) List.not_mem_nil
  | p :: es, [], _, _, h => absurd ((h p).mp List.mem_cons_self) List.not_mem_nil
  | p :: es, q :: fs, hes, hfs, h => by
    obtain ⟨hp, hes'⟩ := List.pairwise_cons.mp hes
    obtain ⟨hq, hfs'⟩ := List.pairwise_cons.mp hfs
    have head : p = q := by
      rcases List.mem_cons.mp ((h p).mp List.mem_cons_self) with e | hm
      · exact e
      · rcases List.mem_cons.mp ((h q).mpr List.mem_cons_self) with e | hm'
        · exact e.symm
        · exact absurd (hp q hm') (String.lt_asymm (hq p hm))
    subst head
    have tail : ∀ r, r ∈ es ↔ r ∈ fs := by
      intro r
      have hr := h r
      by_cases e : r = p
      · subst e
        exact ⟨fun hm => absurd (hp _ hm) (String.lt_irrefl _),
          fun hm => absurd (hq _ hm) (String.lt_irrefl _)⟩
      · simpa [e] using hr
    rw [entries_eq_of_mem_iff hes' hfs' tail]

theorem ext_get? {m n : SortedMap α} (h : ∀ k, m.get? k = n.get? k) : m = n := by
  have same : m.entries = n.entries :=
    entries_eq_of_mem_iff m.increasing n.increasing fun ⟨k, v⟩ => by
      rw [mem_entries_iff, mem_entries_iff, h k]
  cases m; cases n; simp_all

/-! ## Maps from lists -/

theorem ofList_entries (m : SortedMap α) : ofList m.entries = m := by
  apply ext_get?
  intro k
  cases known : m.get? k with
  | none =>
    refine (get?_insertMany_of_fresh _ ?_).trans (get?_empty k)
    rintro ⟨k', v⟩ here rfl
    cases known.symm.trans (mem_entries_iff.mp here)
  | some v => exact get?_insertMany_of_mem _ m.keys_nodup (mem_entries_iff.mpr known)

theorem map_insert (f : α → β) (m : SortedMap α) (key : String) (value : α) :
    (m.insert key value).map f = (m.map f).insert key (f value) := by
  apply ext_get?
  intro k
  simp only [get?_map, get?_insert]
  split <;> rfl

theorem map_insertMany (f : α → β) (m : SortedMap α) (pairs : List (String × α)) :
    (m.insertMany pairs).map f = (m.map f).insertMany (pairs.map fun p => (p.1, f p.2)) := by
  induction pairs generalizing m with
  | nil => rfl
  | cons p pairs ih => exact (ih (m.insert p.1 p.2)).trans (by rw [map_insert]; rfl)

theorem map_ofList (f : α → β) (pairs : List (String × α)) :
    (ofList pairs).map f = ofList (pairs.map fun p => (p.1, f p.2)) :=
  map_insertMany f empty pairs

/-! ## Unions -/

theorem orElse_empty (m : SortedMap α) : m.orElse empty = m :=
  ext_get? fun k => by rw [get?_orElse, get?_empty, Option.or_none]

theorem empty_orElse (m : SortedMap α) : empty.orElse m = m :=
  ext_get? fun k => by rw [get?_orElse, get?_empty, Option.none_or]

theorem orElse_self (m : SortedMap α) : m.orElse m = m :=
  ext_get? fun k => by rw [get?_orElse, Option.or_self]

theorem orElse_assoc (m n o : SortedMap α) : (m.orElse n).orElse o = m.orElse (n.orElse o) :=
  ext_get? fun k => by simp only [get?_orElse, Option.or_assoc]

theorem insert_eq_orElse (m : SortedMap α) (key : String) (value : α) :
    m.insert key value = (empty.insert key value).orElse m := by
  apply ext_get?
  intro k
  simp only [get?_orElse, get?_insert, get?_empty]
  split <;> simp

end SortedMap

end Paradigm
