import ScriptHost.Table

/- Tables as lists of entries. A key that is new goes to the end and can be taken
   off again; a key that is there keeps its place when its value changes, so a
   change of value splits the entries at that place and leaves both sides alone. -/
namespace ScriptHost.Table

variable {κ ν : Type}

theorem mem_keys_iff {t : Table κ ν} {k : κ} : k ∈ t.keys ↔ ∃ v, (k, v) ∈ t.entries := by
  simp [keys]

theorem filter_eq_self {t : Table κ ν} {keep : κ → ν → Bool}
    (h : ∀ e ∈ t.entries, keep e.1 e.2 = true) : t.filter keep = t := by
  rw [filter, List.filter_eq_self.2 h]

theorem keys_filter_sublist (t : Table κ ν) (keep : κ → ν → Bool) :
    (t.filter keep).keys.Sublist t.keys :=
  List.filter_sublist.map _

variable [DecidableEq κ]

theorem get?_eq_none_iff {t : Table κ ν} {k : κ} : t.get? k = none ↔ k ∉ t.keys := by
  simp only [get?, Option.map_eq_none_iff, List.find?_eq_none, decide_eq_true_eq, mem_keys_iff]
  constructor
  · rintro h ⟨v, hv⟩
    exact h _ hv rfl
  · rintro h ⟨l, v⟩ he rfl
    exact h ⟨v, he⟩

theorem has_iff {t : Table κ ν} {k : κ} : t.has k = true ↔ k ∈ t.keys := by
  rw [has, Option.isSome_iff_ne_none, ne_eq, get?_eq_none_iff, Decidable.not_not]

theorem mem_entries_of_get? {t : Table κ ν} {k : κ} {v : ν} (h : t.get? k = some v) :
    (k, v) ∈ t.entries := by
  obtain ⟨⟨l, w⟩, he, hv⟩ := Option.map_eq_some_iff.1 h
  have hk : l = k := by simpa using List.find?_some he
  subst hk
  cases hv
  exact List.mem_of_find?_eq_some he

theorem get?_of_mem_entries {t : Table κ ν} {k : κ} {v : ν} (hdistinct : t.keys.Nodup)
    (h : (k, v) ∈ t.entries) : t.get? k = some v := by
  obtain ⟨es⟩ := t
  simp only [keys, get?] at hdistinct h ⊢
  induction es with
  | nil => cases h
  | cons e rest ih =>
    rw [List.map_cons, List.nodup_cons] at hdistinct
    rcases List.mem_cons.1 h with rfl | h
    · rw [List.find?_cons_of_pos (by simp)]
      rfl
    · have hne : e.1 ≠ k := fun he => hdistinct.1 (he ▸ List.mem_map_of_mem h)
      rw [List.find?_cons_of_neg (by simpa using hne)]
      exact ih hdistinct.2 h

theorem entries_insert_of_not_mem {t : Table κ ν} {k : κ} (v : ν) (h : k ∉ t.keys) :
    (t.insert k v).entries = t.entries ++ [(k, v)] := by
  obtain ⟨es⟩ := t
  simp only [keys, insert] at h ⊢
  induction es with
  | nil => rfl
  | cons e rest ih =>
    rw [List.map_cons, List.mem_cons, not_or] at h
    rw [insertInto, if_neg (Ne.symm h.1), ih h.2, List.cons_append]

/-- A change of value leaves alone the entries before and after it. -/
theorem exists_split_of_get? {t : Table κ ν} {k : κ} {old : ν} (h : t.get? k = some old) :
    ∃ before after, t.entries = before ++ (k, old) :: after ∧
      ∀ v, (t.insert k v).entries = before ++ (k, v) :: after := by
  obtain ⟨es⟩ := t
  simp only [get?, insert] at h ⊢
  induction es with
  | nil => cases h
  | cons e rest ih =>
    by_cases he : e.1 = k
    · obtain ⟨l, w⟩ := e
      subst he
      rw [List.find?_cons_of_pos (by simp)] at h
      cases h
      exact ⟨[], rest, rfl, fun v => by simp [insertInto]⟩
    · rw [List.find?_cons_of_neg (by simpa using he)] at h
      obtain ⟨before, after, hes, hv⟩ := ih h
      refine ⟨e :: before, after, by rw [hes, List.cons_append], fun v => ?_⟩
      rw [insertInto, if_neg he, hv v, List.cons_append]

theorem keys_insert_of_get? {t : Table κ ν} {k : κ} {old : ν} (v : ν)
    (h : t.get? k = some old) : (t.insert k v).keys = t.keys := by
  obtain ⟨before, after, hes, hv⟩ := exists_split_of_get? h
  simp only [keys, hes, hv v, List.map_append, List.map_cons]

/-- A new key can be taken off again. -/
theorem erase_insert_of_not_mem {t : Table κ ν} {k : κ} (v : ν) (h : k ∉ t.keys) :
    (t.insert k v).erase k = t := by
  have hkeep : t.entries.filter (·.1 ≠ k) = t.entries := by
    refine List.filter_eq_self.2 fun e he => ?_
    have hne : e.1 ≠ k := fun hk => h (mem_keys_iff.2 ⟨e.2, by rwa [← hk]⟩)
    simpa using hne
  rw [erase, entries_insert_of_not_mem v h, List.filter_append, hkeep]
  simp

theorem filter_insert_of_get? {t : Table κ ν} {k : κ} {old v : ν} {keep : κ → ν → Bool}
    (h : t.get? k = some old) (hold : keep k old = false) (hv : keep k v = false) :
    (t.insert k v).filter keep = t.filter keep := by
  obtain ⟨before, after, hes, hnew⟩ := exists_split_of_get? h
  rw [filter, filter, hes, hnew v, List.filter_append, List.filter_append,
    List.filter_cons_of_neg (by simp [hv]), List.filter_cons_of_neg (by simp [hold])]

theorem filter_insert_of_not_mem {t : Table κ ν} {k : κ} {v : ν} {keep : κ → ν → Bool}
    (h : k ∉ t.keys) (hv : keep k v = false) : (t.insert k v).filter keep = t.filter keep := by
  rw [filter, filter, entries_insert_of_not_mem v h, List.filter_append,
    List.filter_cons_of_neg (by simp [hv]), List.filter_nil, List.append_nil]

theorem keys_erase_sublist (t : Table κ ν) (k : κ) : (t.erase k).keys.Sublist t.keys :=
  List.filter_sublist.map _

theorem mem_entries_insert {t : Table κ ν} {k : κ} {v : ν} {e : κ × ν}
    (h : e ∈ (t.insert k v).entries) : e = (k, v) ∨ e ∈ t.entries := by
  cases hk : t.get? k with
  | none =>
    rw [entries_insert_of_not_mem v (get?_eq_none_iff.1 hk), List.mem_append,
      List.mem_singleton] at h
    exact h.symm
  | some old =>
    obtain ⟨before, after, hes, hnew⟩ := exists_split_of_get? hk
    rw [hnew v, List.mem_append, List.mem_cons] at h
    rw [hes, List.mem_append, List.mem_cons]
    rcases h with h | h | h
    · exact .inr (.inl h)
    · exact .inl h
    · exact .inr (.inr (.inr h))

theorem get?_erase_of_ne (t : Table κ ν) {k l : κ} (h : l ≠ k) :
    (t.erase k).get? l = t.get? l := by
  obtain ⟨es⟩ := t
  simp only [get?, erase, List.find?_filter]
  congr 2
  funext e
  by_cases he : e.1 = l
  · simp [he, h]
  · simp [he]

theorem get?_of_get?_filter {t : Table κ ν} {keep : κ → ν → Bool} {k : κ} {v : ν}
    (hdistinct : t.keys.Nodup) (h : (t.filter keep).get? k = some v) : t.get? k = some v :=
  get?_of_mem_entries hdistinct (List.mem_filter.1 (mem_entries_of_get? h)).1

theorem get?_of_cons {t : Table κ ν} {k : κ} {v : ν} {rest : List (κ × ν)}
    (h : t.entries = (k, v) :: rest) : t.get? k = some v := by
  rw [get?, h, List.find?_cons_of_pos (by simp)]
  rfl

theorem entries_erase_of_cons {t : Table κ ν} {k : κ} {v : ν} {rest : List (κ × ν)}
    (hdistinct : (((k, v) :: rest).map Prod.fst).Nodup) (h : t.entries = (k, v) :: rest) :
    (t.erase k).entries = rest := by
  rw [List.map_cons, List.nodup_cons] at hdistinct
  rw [erase, h, List.filter_cons_of_neg (by simp)]
  refine List.filter_eq_self.2 fun e he => ?_
  have hne : e.1 ≠ k := fun hk => hdistinct.1 (List.mem_map.2 ⟨e, he, hk⟩)
  simpa using hne

/-! A table on top of another. -/

/-- A table on top of another, with its keys and values carried over. -/
def atop (base t : Table κ ν) (f : κ → κ) (g : ν → ν) : Table κ ν :=
  ⟨base.entries ++ t.entries.map (Prod.map f g)⟩

section
variable {base t : Table κ ν} {f : κ → κ} {g : ν → ν} {k : κ}

omit [DecidableEq κ] in
theorem ne_of_not_mem_keys {e : κ × ν} (h : k ∉ base.keys) (he : e ∈ base.entries) : e.1 ≠ k := by
  intro hsame
  exact h (mem_keys_iff.2 ⟨e.2, hsame ▸ he⟩)

/-- A key that is carried over is looked for on top. -/
theorem get?_atop (hf : Function.Injective f) (hk : f k ∉ base.keys) :
    (base.atop t f g).get? (f k) = (t.get? k).map g := by
  have hbase : base.entries.find? (·.1 = f k) = none := by
    refine List.find?_eq_none.2 fun e he => ?_
    simpa using ne_of_not_mem_keys hk he
  have hsame : ((fun e : κ × ν => decide (e.1 = f k)) ∘ Prod.map f g) =
      fun e => decide (e.1 = k) := by
    funext e
    simp [hf.eq_iff]
  rw [get?, get?, atop, List.find?_append, hbase, Option.none_or, List.find?_map, hsame]
  cases t.entries.find? (·.1 = k) <;> rfl

theorem get?_atop_of_mem_keys (hk : k ∈ base.keys) : (base.atop t f g).get? k = base.get? k := by
  have hfound : (base.entries.find? (·.1 = k)).isSome := by
    obtain ⟨v, hv⟩ := mem_keys_iff.1 hk
    exact List.find?_isSome.2 ⟨_, hv, decide_eq_true rfl⟩
  rw [get?, get?, atop, List.find?_append, Option.or_of_isSome hfound]

theorem has_atop (hf : Function.Injective f) (hk : f k ∉ base.keys) :
    (base.atop t f g).has (f k) = t.has k := by
  rw [has, get?_atop hf hk, Option.isSome_map]
  rfl

theorem insertInto_append {es : List (κ × ν)} (h : ∀ e ∈ es, e.1 ≠ k) (v : ν)
    (rest : List (κ × ν)) : insertInto k v (es ++ rest) = es ++ insertInto k v rest := by
  induction es with
  | nil => rfl
  | cons e es ih =>
    rw [List.cons_append, insertInto, if_neg (h e List.mem_cons_self),
      ih fun e' he' => h e' (List.mem_cons_of_mem _ he')]
    rfl

theorem insertInto_map (hf : Function.Injective f) (v : ν) (es : List (κ × ν)) :
    insertInto (f k) (g v) (es.map (Prod.map f g)) = (insertInto k v es).map (Prod.map f g) := by
  induction es with
  | nil => rfl
  | cons e es ih =>
    by_cases hsame : e.1 = k
    · simp [insertInto, hsame]
    · have hne : f e.1 ≠ f k := fun h => hsame (hf h)
      simp [insertInto, hsame, hne, ih]

theorem insert_atop (hf : Function.Injective f) (hk : f k ∉ base.keys) (v : ν) :
    (base.atop t f g).insert (f k) (g v) = base.atop (t.insert k v) f g := by
  rw [insert, atop, insertInto_append fun e he => ne_of_not_mem_keys hk he, insertInto_map hf]
  rfl

omit [DecidableEq κ] in
theorem filter_atop (keep keep' : κ → ν → Bool) (hbase : ∀ e ∈ base.entries, keep e.1 e.2 = true)
    (hsame : ∀ k v, keep (f k) (g v) = keep' k v) :
    (base.atop t f g).filter keep = base.atop (t.filter keep') f g := by
  have htop : ((fun e : κ × ν => keep e.1 e.2) ∘ Prod.map f g) = fun e => keep' e.1 e.2 := by
    funext e
    exact hsame e.1 e.2
  rw [filter, atop, List.filter_append, List.filter_eq_self.2 hbase, List.filter_map, htop]
  rfl

theorem erase_atop (hf : Function.Injective f) (hk : f k ∉ base.keys) :
    (base.atop t f g).erase (f k) = base.atop (t.erase k) f g := by
  refine filter_atop (fun l _ => l ≠ f k) (fun l _ => l ≠ k) ?_ ?_
  · intro e he
    simpa using ne_of_not_mem_keys hk he
  · intro l v
    simp [hf.eq_iff]

end

end ScriptHost.Table
