import Mathlib.Data.List.AList

/-!
# Keyed tables

A relational table with a primary key is a finite list of rows in which no key occurs twice, that
is, an association list of Mathlib (`AList`) with a constant row type.  This module fixes the
operations that statements of a relational store perform on such a table and says, for each of
them, what a later read of a key returns:

* `get?` reads one row;
* `update` rewrites every row that satisfies a condition (`UPDATE … WHERE …`);
* `upsert` inserts a row or merges it into the one that is there (`INSERT … ON CONFLICT`);
* `delete` drops every row that satisfies a condition (`DELETE … WHERE …`);
* `any`, `all` and `find?` are the existential, universal and selecting queries, `count` the
  aggregate.

`Rel R t t'` says that two tables have the same keys and rows that are related by `R`; it is how a
statement that rewrites rows in place is summarised.

Later modules reason about tables only through the `get?` lemmas and the rules for `Rel`.
-/

/-- A table: rows of type `ρ` under distinct keys of type `κ`. -/
abbrev Table (κ ρ : Type) [DecidableEq κ] : Type := AList fun _ : κ => ρ

namespace Table

open Option List AList

variable {κ ρ : Type} [DecidableEq κ]
variable {r' : ρ}

instance [DecidableEq ρ] : DecidableEq (Table κ ρ) :=
  fun _ _ => decidable_of_iff _ AList.ext_iff.symm

def get? (t : Table κ ρ) (k : κ) : Option ρ := lookup k t

def put (t : Table κ ρ) (k : κ) (r : ρ) : Table κ ρ := insert k r t

def mapRows (f : κ → ρ → ρ) (t : Table κ ρ) : Table κ ρ where
  entries := t.entries.map fun e => ⟨e.1, f e.1 e.2⟩
  nodupKeys := by
    have hkeys : (t.entries.map fun e => (⟨e.1, f e.1 e.2⟩ : Sigma fun _ : κ => ρ)).keys =
        t.entries.keys := by
      simp [List.keys, Function.comp_def]
    rw [List.NodupKeys, hkeys]
    exact t.keys_nodup

section

variable (t : Table κ ρ)

section

variable (p : κ → ρ → Bool)

def update (f : ρ → ρ) : Table κ ρ :=
  t.mapRows fun k r => if p k r then f r else r

def modify (k : κ) (f : ρ → ρ) : Table κ ρ :=
  t.update (fun k' _ => k' = k) f

def upsert (k : κ) (new : ρ) (merge : ρ → ρ) : Table κ ρ :=
  t.put k (((t.get? k).map merge).getD new)

def delete : Table κ ρ where
  entries := t.entries.filter fun e => !p e.1 e.2
  nodupKeys := t.nodupKeys.sublist (filter_sublist)

def any : Bool := t.entries.any fun e => p e.1 e.2

def all : Bool := t.entries.all fun e => p e.1 e.2

def find? : Option (κ × ρ) :=
  (t.entries.find? fun e => p e.1 e.2).map fun e => (e.1, e.2)

def count : ℕ := t.entries.countP fun e => p e.1 e.2

end

end

def fold {β : Type} (t : Table κ ρ) (b : β) (f : β → κ → ρ → β) : β :=
  t.entries.foldl (fun acc e => f acc e.1 e.2) b

/-- Write a row for every row of another table, from that row and the one that was there
(`INSERT … SELECT … ON CONFLICT`). -/
def fill {σ : Type} (t : Table κ ρ) (source : Table κ σ) (f : κ → σ → Option ρ → ρ) : Table κ ρ :=
  source.fold t fun acc k r => acc.put k (f k r (t.get? k))

/-! ## What a read returns -/

variable {t : Table κ ρ} {k k' : κ} {r : ρ} {p : κ → ρ → Bool} {β : Type} {P : β → Prop} {b : β}
  {f : β → κ → ρ → β}

lemma get?_eq_some_iff_mem : t.get? k = some r ↔ (⟨k, r⟩ : Sigma fun _ : κ => ρ) ∈ t.entries :=
  mem_lookup_iff

@[simp] lemma get?_empty (k : κ) : get? (∅ : Table κ ρ) k = none := lookup_empty k

@[simp] lemma get?_put_self (t : Table κ ρ) (k : κ) (r : ρ) : (t.put k r).get? k = some r :=
  lookup_insert t

@[simp] lemma get?_put_of_ne (h : k' ≠ k) : (t.put k r).get? k' = t.get? k' :=
  lookup_insert_ne h

lemma get?_put (t : Table κ ρ) (k k' : κ) (r : ρ) :
    (t.put k r).get? k' = if k' = k then some r else t.get? k' := by
  split
  next h => rw [h, get?_put_self]
  next h => exact get?_put_of_ne h

lemma of_get?_put {t : Table κ ρ} {k k' : κ} {r : ρ} (h : (t.put k r).get? k' = some r') :
    k' = k ∧ r' = r ∨ t.get? k' = some r' := by
  rw [get?_put] at h
  split at h
  next hk => exact .inl ⟨hk, (some.inj h).symm⟩
  · exact .inr h

@[simp] lemma get?_mapRows (f : κ → ρ → ρ) (t : Table κ ρ) (k : κ) :
    (t.mapRows f).get? k = (t.get? k).map (f k) := by
  ext r
  simp only [get?_eq_some_iff_mem, map_eq_some_iff, mapRows, List.mem_map, Sigma.mk.injEq,
    Sigma.exists]
  constructor
  · rintro ⟨k', r', hmem, rfl, hr⟩
    exact ⟨r', hmem, eq_of_heq hr⟩
  · rintro ⟨r', hmem, rfl⟩
    exact ⟨k, r', hmem, rfl, HEq.rfl⟩

lemma get?_update (t : Table κ ρ) (p : κ → ρ → Bool) (f : ρ → ρ) (k : κ) :
    (t.update p f).get? k = (t.get? k).map fun r => if p k r then f r else r :=
  get?_mapRows _ t k

@[simp] lemma get?_modify_self (t : Table κ ρ) (k : κ) (f : ρ → ρ) :
    (t.modify k f).get? k = (t.get? k).map f := by
  simp [modify, get?_update]

@[simp] lemma get?_modify_of_ne {f : ρ → ρ} (h : k' ≠ k) : (t.modify k f).get? k' = t.get? k' := by
  simp [modify, get?_update, h]

lemma get?_modify_eq_map (t : Table κ ρ) (k k' : κ) (f : ρ → ρ) :
    (t.modify k f).get? k' = (t.get? k').map fun r => if k' = k then f r else r := by
  simp [modify, get?_update]

lemma get?_modify (t : Table κ ρ) (k k' : κ) (f : ρ → ρ) :
    (t.modify k f).get? k' = if k' = k then (t.get? k).map f else t.get? k' := by
  split
  next h => rw [h, get?_modify_self]
  next h => exact get?_modify_of_ne h

@[simp] lemma get?_upsert_self (t : Table κ ρ) (k : κ) (new : ρ) (merge : ρ → ρ) :
    (t.upsert k new merge).get? k = some (((t.get? k).map merge).getD new) :=
  get?_put_self t k _

@[simp] lemma get?_upsert_of_ne {new : ρ} {merge : ρ → ρ}
    (h : k' ≠ k) : (t.upsert k new merge).get? k' = t.get? k' :=
  get?_put_of_ne h

lemma get?_upsert (t : Table κ ρ) (k k' : κ) (new : ρ) (merge : ρ → ρ) :
    (t.upsert k new merge).get? k' =
      if k' = k then some (((t.get? k).map merge).getD new) else t.get? k' :=
  get?_put t k k' _

lemma get?_delete (t : Table κ ρ) (p : κ → ρ → Bool) (k : κ) :
    (t.delete p).get? k = (t.get? k).filter fun r => !p k r := by
  ext r
  simp only [get?_eq_some_iff_mem, filter_eq_some_iff, delete, mem_filter]

lemma of_get?_delete {t : Table κ ρ} {p : κ → ρ → Bool} {k : κ}
    (h : (t.delete p).get? k = some r) : t.get? k = some r := by
  rw [get?_delete, filter_eq_some_iff] at h
  exact h.1

section Forall

variable {t : Table κ ρ} {P : κ → ρ → Prop} (h : ∀ k r, t.get? k = some r → P k r)
include h

lemma forall_put {k : κ} {r : ρ} (hnew : P k r) :
    ∀ k' r', (t.put k r).get? k' = some r' → P k' r' := by
  intro k' r' hr'
  obtain ⟨rfl, rfl⟩ | hr' := of_get?_put hr'
  · exact hnew
  · exact h k' r' hr'

lemma forall_delete {p : κ → ρ → Bool} : ∀ k r, (t.delete p).get? k = some r → P k r :=
  fun k r hr => h k r (of_get?_delete hr)

end Forall

/-! ## Queries -/

lemma any_eq_true : t.any p ↔ ∃ k r, t.get? k = some r ∧ p k r := by
  simp only [any, List.any_eq_true, Sigma.exists, get?_eq_some_iff_mem]

lemma any_eq_false : t.any p = false ↔ ∀ k r, t.get? k = some r → p k r = false := by
  rw [← Bool.not_eq_true, any_eq_true]
  simp only [not_exists, not_and, Bool.not_eq_true]

lemma all_eq_true : t.all p ↔ ∀ k r, t.get? k = some r → p k r := by
  simp only [all, List.all_eq_true, Sigma.forall, get?_eq_some_iff_mem]

lemma of_all {P : κ → ρ → Prop} [∀ k r, Decidable (P k r)] (h : t.all fun k r => P k r)
    (hr : t.get? k = some r) : P k r :=
  of_decide_eq_true (all_eq_true.mp h k r hr)

/-- What is asked of every row can be decided. -/
instance (priority := high) decidableRows {P : κ → ρ → Prop} [∀ k r, Decidable (P k r)] :
    Decidable (∀ k r, t.get? k = some r → P k r) :=
  decidable_of_iff (t.all fun k r => P k r)
    ⟨fun h _ _ => of_all h, fun h => all_eq_true.mpr fun k r hr => decide_eq_true (h k r hr)⟩

lemma of_find?_eq_some (h : t.find? p = some (k, r)) : t.get? k = some r ∧ p k r := by
  obtain ⟨⟨k', r'⟩, he, heq⟩ := map_eq_some_iff.mp h
  obtain ⟨rfl, rfl⟩ := Prod.mk.inj heq
  exact ⟨get?_eq_some_iff_mem.mpr (mem_of_find?_eq_some he), by simpa using List.find?_some he⟩

lemma isSome_find? : (t.find? p).isSome ↔ ∃ k r, t.get? k = some r ∧ p k r := by
  constructor
  · intro h
    obtain ⟨⟨k, r⟩, hfound⟩ := isSome_iff_exists.mp h
    exact ⟨k, r, of_find?_eq_some hfound⟩
  · rintro ⟨k, r, hr, hp⟩
    rw [find?, isSome_map, List.find?_isSome]
    exact ⟨⟨k, r⟩, get?_eq_some_iff_mem.mp hr, hp⟩

lemma find?_put_self (h : p k r) : (t.put k r).find? p = some (k, r) := by
  simp [find?, put, entries_insert, h]

lemma isSome_find?_update {q : κ → ρ → Bool} {f : ρ → ρ} (hkeeps : ∀ k r, p k (f r) = p k r)
    (h : (t.find? p).isSome) : ((t.update q f).find? p).isSome := by
  obtain ⟨k, r, hr, hp⟩ := isSome_find?.mp h
  refine isSome_find?.mpr ⟨k, if q k r then f r else r, by rw [get?_update, hr]; rfl, ?_⟩
  split
  · rw [hkeeps, hp]
  · exact hp

lemma count_eq_zero : t.count p = 0 ↔ ∀ k r, t.get? k = some r → p k r = false := by
  simp only [count, countP_eq_zero, Sigma.forall, get?_eq_some_iff_mem, Bool.not_eq_true]

lemma count_eq_one (hr : t.get? k = some r) (hp : p k r)
    (honly : ∀ k' r', t.get? k' = some r' → p k' r' → k' = k) : t.count p = 1 := by
  have hnodup : (t.entries.filter fun e => p e.1 e.2).Nodup := t.nodupKeys.nodup.filter _
  have hperm : (t.entries.filter fun e => p e.1 e.2).Perm [⟨k, r⟩] := by
    rw [perm_ext_iff_of_nodup hnodup (nodup_singleton _)]
    rintro ⟨k', r'⟩
    rw [mem_filter, mem_singleton, ← get?_eq_some_iff_mem]
    constructor
    · rintro ⟨hr', hp'⟩
      obtain rfl := honly k' r' hr' hp'
      rw [mem_unique hr' hr]
    · rintro h
      cases h
      exact ⟨hr, hp⟩
  rw [count, countP_eq_length_filter, hperm.length_eq, length_singleton]

lemma count_put_of_fresh
    (hfresh : t.get? k = none) : (t.put k r).count p = t.count p + if p k r then 1 else 0 := by
  have hentries : (t.put k r).entries = ⟨k, r⟩ :: t.entries :=
    entries_insert_of_notMem (lookup_eq_none.mp hfresh)
  rw [count, hentries, countP_cons, count]

lemma fold_invariant_of_get? (hb : P b) (hf : ∀ acc k r, t.get? k = some r → P acc →
    P (f acc k r)) :
    P (t.fold b f) := by
  have hrows : ∀ e ∈ t.entries, t.get? e.1 = some e.2 := fun _ => get?_eq_some_iff_mem.mpr
  unfold fold
  generalize t.entries = es at hrows ⊢
  induction es generalizing b with
  | nil => exact hb
  | cons e es ih =>
    exact ih (hf b e.1 e.2 (hrows e mem_cons_self) hb)
      fun e' he' => hrows e' (mem_cons_of_mem e he')

lemma fold_invariant (hb : P b) (hf : ∀ acc k r, P acc → P (f acc k r)) : P (t.fold b f) :=
  fold_invariant_of_get? hb fun acc k r _ => hf acc k r

lemma fold_establishes (hr : t.get? k = some r) (hrow : ∀ acc, P (f acc k r))
    (hkeep : ∀ acc k r, P acc → P (f acc k r)) : P (t.fold b f) := by
  have hfold : ∀ (es : List (Sigma fun _ : κ => ρ)) (acc : β), P acc →
      P (es.foldl (fun acc e => f acc e.1 e.2) acc) := by
    intro es
    induction es with
    | nil => exact fun _ h => h
    | cons e es ih => exact fun acc h => ih _ (hkeep acc e.1 e.2 h)
  have hmem := get?_eq_some_iff_mem.mp hr
  unfold fold
  generalize t.entries = es at hmem ⊢
  induction es generalizing b with
  | nil => cases hmem
  | cons e es ih =>
    cases hmem with
    | head => exact hfold es _ (hrow b)
    | tail _ hmem => exact ih hmem

lemma mem_fold_append : k ∈ t.fold [] (fun keys k r => if p k r then keys else keys ++ [k]) ↔
      ∃ r, t.get? k = some r ∧ p k r = false := by
  have hcollect : ∀ (es : List (Sigma fun _ : κ => ρ)) (keys : List κ),
      es.foldl (fun keys e => if p e.1 e.2 then keys else keys ++ [e.1]) keys =
        keys ++ (es.filter fun e => !p e.1 e.2).map (·.1) := by
    intro es
    induction es with
    | nil => simp
    | cons e es ih =>
      intro keys
      rw [foldl_cons, ih]
      by_cases hp : p e.1 e.2 <;> simp [hp]
  rw [fold, hcollect]
  simp [get?_eq_some_iff_mem]

lemma get?_foldl_put (keys : List κ) (r : ρ) (t : Table κ ρ) (k : κ) :
    (keys.foldl (fun t k => t.put k r) t).get? k = if k ∈ keys then some r else t.get? k := by
  induction keys generalizing t with
  | nil => simp
  | cons k' keys ih =>
    rw [foldl_cons, ih, get?_put]
    by_cases hmem : k ∈ keys <;> simp [hmem]

lemma get?_fill {σ : Type} (t : Table κ ρ) (source : Table κ σ) (f : κ → σ → Option ρ → ρ) (k : κ) :
    (t.fill source f).get? k = ((source.get? k).map fun r => f k r (t.get? k)).or (t.get? k) := by
  -- A key that none of the entries has is not written; one that the first has, by the first only.
  have hskip : ∀ (es : List (Sigma fun _ : κ => σ)) (acc : Table κ ρ), k ∉ es.keys →
      (es.foldl (fun acc e => acc.put e.1 (f e.1 e.2 (t.get? e.1))) acc).get? k = acc.get? k := by
    intro es
    induction es with
    | nil => exact fun _ _ => rfl
    | cons e es ih =>
      intro acc hnot
      rw [keys_cons, mem_cons, not_or] at hnot
      rw [foldl_cons, ih _ hnot.2, get?_put_of_ne hnot.1]
  have hwrite : ∀ (es : List (Sigma fun _ : κ => σ)) (acc : Table κ ρ) (r : σ), es.keys.Nodup →
      (⟨k, r⟩ : Sigma fun _ : κ => σ) ∈ es →
      (es.foldl (fun acc e => acc.put e.1 (f e.1 e.2 (t.get? e.1))) acc).get? k =
        some (f k r (t.get? k)) := by
    intro es
    induction es with
    | nil => exact fun _ _ _ hmem => nomatch hmem
    | cons e es ih =>
      intro acc r hnodup hmem
      rw [keys_cons, nodup_cons] at hnodup
      rw [foldl_cons]
      cases hmem with
      | head => rw [hskip es _ hnodup.1, get?_put_self]
      | tail _ hmem => exact ih _ r hnodup.2 hmem
  unfold fill fold
  cases hrow : source.get? k with
  | none =>
    have hnot : k ∉ source.entries.keys := by
      intro hmem
      obtain ⟨r, hr⟩ := exists_of_mem_keys hmem
      rw [get?_eq_some_iff_mem.mpr hr] at hrow
      cases hrow
    rw [hskip _ _ hnot]
    rfl
  | some r =>
    rw [hwrite _ _ r source.keys_nodup (get?_eq_some_iff_mem.mp hrow)]
    rfl

lemma mem_keys_iff : k ∈ t.keys ↔ (t.get? k).isSome := by
  rw [← AList.mem_keys, ← AList.lookup_isSome]
  rfl

lemma length_keys_le {t' : Table κ ρ} (h : ∀ k, (t.get? k).isSome → (t'.get? k).isSome) :
    t.keys.length ≤ t'.keys.length :=
  (subperm_of_subset t.keys_nodup fun _ hk =>
    mem_keys_iff.mpr (h _ (mem_keys_iff.mp hk))).length_le

lemma count_eq_length_keys (h : t.all p) : t.count p = t.keys.length := by
  have hall : ∀ e ∈ t.entries, p e.1 e.2 := List.all_eq_true.mp h
  rw [count, List.countP_eq_length.mpr hall, AList.keys, List.keys, List.length_map]

/-! ## Rewriting rows in place -/

def Rel (R : κ → ρ → ρ → Prop) (t t' : Table κ ρ) : Prop :=
  ∀ k, Option.Rel (R k) (t.get? k) (t'.get? k)

variable {R : κ → ρ → ρ → Prop} {t t' : Table κ ρ}

lemma Rel.before (h : Rel R t t') {k : κ} (hr' : t'.get? k = some r') :
    ∃ r, t.get? k = some r ∧ R k r r' := by
  have hk := h k
  rw [hr'] at hk
  generalize t.get? k = o at hk ⊢
  cases hk with
  | some hR => exact ⟨_, rfl, hR⟩

lemma Rel.after (h : Rel R t t') {k : κ} {r : ρ} (hr : t.get? k = some r) :
    ∃ r', t'.get? k = some r' ∧ R k r r' := by
  have hk := h k
  rw [hr] at hk
  generalize t'.get? k = o at hk ⊢
  cases hk with
  | some hR => exact ⟨_, rfl, hR⟩

lemma rel_mapRows {f : κ → ρ → ρ} (h : ∀ k r, R k r (f k r)) : Rel R t (t.mapRows f) := by
  intro k
  rw [get?_mapRows]
  cases t.get? k with
  | none => exact .none
  | some r => exact .some (h k r)

section

variable {k : κ} {r : ρ} (hrefl : ∀ k r, R k r r)
include hrefl

lemma rel_update {p : κ → ρ → Bool} {f : ρ → ρ} (h : ∀ k r, p k r → R k r (f r)) :
    Rel R t (t.update p f) := by
  refine rel_mapRows fun k r => ?_
  split
  next hp => exact h k r hp
  · exact hrefl k r

lemma rel_modify {f : ρ → ρ} (hr : t.get? k = some r) (h : R k r (f r)) :
    Rel R t (t.modify k f) := by
  intro k'
  rw [get?_modify]
  split
  next hk =>
    rw [hk, hr]
    exact .some h
  · cases t.get? k' with
    | none => exact .none
    | some r => exact .some (hrefl k' r)

lemma rel_put (hr : t.get? k = some r) (h : R k r r') : Rel R t (t.put k r') := by
  intro k'
  rw [get?_put]
  split
  next hk =>
    rw [hk, hr]
    exact .some h
  · cases t.get? k' with
    | none => exact .none
    | some r => exact .some (hrefl k' r)

lemma Rel.refl (t : Table κ ρ) : Rel R t t := by
  intro k
  cases t.get? k with
  | none => exact .none
  | some r => exact .some (hrefl k r)

end

lemma Rel.mono {S : κ → ρ → ρ → Prop} (h : Rel R t t') (hRS : ∀ k r r', R k r r' → S k r r') :
    Rel S t t' := by
  intro k
  have hk := h k
  generalize t.get? k = o at hk ⊢
  generalize t'.get? k = o' at hk ⊢
  cases hk with
  | none => exact .none
  | some hR => exact .some (hRS k _ _ hR)

lemma Rel.trans (htrans : ∀ k r s u, R k r s → R k s u → R k r u) {t'' : Table κ ρ}
    (h : Rel R t t') (h' : Rel R t' t'') : Rel R t t'' := by
  intro k
  cases hr : t.get? k with
  | none =>
    cases hr'' : t''.get? k with
    | none => exact .none
    | some u =>
      obtain ⟨s, hs, -⟩ := h'.before hr''
      obtain ⟨r, hr', -⟩ := h.before hs
      simp [hr] at hr'
  | some r =>
    obtain ⟨s, hs, hrs⟩ := h.after hr
    obtain ⟨u, hu, hsu⟩ := h'.after hs
    rw [hu]
    exact .some (htrans k r s u hrs hsu)

/-! ## No new rows of a kind -/

/-- Every row of the second table that satisfies the condition has one of the same key in the first
that does. -/
def NoNew (P : κ → ρ → Prop) (t t' : Table κ ρ) : Prop :=
  ∀ k r', t'.get? k = some r' → P k r' → ∃ r, t.get? k = some r ∧ P k r

namespace NoNew

variable {P : κ → ρ → Prop} {k : κ}

lemma refl (t : Table κ ρ) : NoNew P t t := fun _ r' hr' hP => ⟨r', hr', hP⟩

lemma trans {t'' : Table κ ρ} (h : NoNew P t t') (h' : NoNew P t' t'') : NoNew P t t'' := by
  intro k r'' hr'' hP
  obtain ⟨r', hr', hP⟩ := h' k r'' hr'' hP
  exact h k r' hr' hP

lemma mapRows {f : κ → ρ → ρ} (hf : ∀ k r, P k (f k r) → P k r) : NoNew P t (t.mapRows f) := by
  intro k r' hr' hP
  rw [get?_mapRows] at hr'
  obtain ⟨r, hr, rfl⟩ := Option.map_eq_some_iff.mp hr'
  exact ⟨r, hr, hf k r hP⟩

lemma update {p : κ → ρ → Bool} {f : ρ → ρ} (hf : ∀ k r, p k r → P k (f r) → P k r) :
    NoNew P t (t.update p f) := by
  refine mapRows fun k r => ?_
  split
  next hp => exact hf k r hp
  · exact id

lemma modify {f : ρ → ρ} (hf : ∀ r, P k (f r) → P k r) : NoNew P t (t.modify k f) :=
  update fun _ r hk => of_decide_eq_true hk ▸ hf r

lemma put {r : ρ} (hr : P k r → ∃ r₀, t.get? k = some r₀ ∧ P k r₀) : NoNew P t (t.put k r) := by
  intro k' r' hr' hP
  obtain ⟨rfl, rfl⟩ | hr' := of_get?_put hr'
  · exact hr hP
  · exact ⟨r', hr', hP⟩

lemma upsert {new : ρ} {merge : ρ → ρ} (hnew : ¬ P k new) (hmerge : ∀ r, P k (merge r) → P k r) :
    NoNew P t (t.upsert k new merge) := by
  refine put fun hP => ?_
  cases hr : t.get? k with
  | none => exact absurd (by rwa [hr] at hP) hnew
  | some r => exact ⟨r, rfl, hmerge r (by rwa [hr] at hP)⟩

lemma delete {p : κ → ρ → Bool} : NoNew P t (t.delete p) :=
  fun _ r' hr' hP => ⟨r', of_get?_delete hr', hP⟩

end NoNew

end Table
