import ScriptHost.Files.FileSystem
import ScriptHost.Proofs.Table

/- Reading what was written. Writing puts what goes into the file, the content or a part
   of it, at a location whose parent is a directory and which is no directory itself. So
   it makes no directory and unmakes none, and the walk that led to the location leads to
   it again.

   What is proved: `wrote_of_write` and `wrote_of_cut`, what a write leaves that went
   through or that failed midway, and `read_write`, the content that was written is the
   one read. -/
namespace ScriptHost.FileSystem

/-! Directories. -/

theorem isDirectory_iff {fs : FileSystem} {d : Location} :
    fs.isDirectory d = true ↔
      (d <+: fs.workingDirectory ∨ ∃ l ∈ fs.directories, d <+: l) ∨
        ∃ file ∈ fs.files.keys, d <+: file ∧ d ≠ file := by
  simp only [isDirectory, Bool.or_eq_true, List.any_eq_true, Bool.and_eq_true,
    List.isPrefixOf_iff_prefix, decide_eq_true_eq]

theorem isDirectory_of_isPrefix {fs : FileSystem} {d d' : Location} (h : fs.isDirectory d = true)
    (hd : d' <+: d) : fs.isDirectory d' = true := by
  rw [isDirectory_iff] at h ⊢
  rcases h with (h | ⟨l, hl, h⟩) | ⟨file, hfile, h, hne⟩
  · exact .inl (.inl (hd.trans h))
  · exact .inl (.inr ⟨l, hl, hd.trans h⟩)
  · refine .inr ⟨file, hfile, hd.trans h, ?_⟩
    rintro rfl
    exact hne (h.eq_of_length (Nat.le_antisymm h.length_le hd.length_le))

theorem isDirectory_dropLast {fs : FileSystem} {d : Location} (h : fs.isDirectory d = true) :
    fs.isDirectory d.dropLast = true :=
  isDirectory_of_isPrefix h (List.dropLast_prefix d)

/-- A location that a step leads to and that is no directory is one name below its parent. -/
theorem step_eq_append {fs : FileSystem} {d l : Location} {name : Name}
    (h : fs.step d name = .ok l) (hl : fs.isDirectory l = false) :
    fs.isDirectory d = true ∧ l = d ++ [name] := by
  unfold step at h
  split at h
  · cases h
  rename_i hd
  have hd : fs.isDirectory d = true := by simpa using hd
  refine ⟨hd, ?_⟩
  split at h
  · cases h
    rw [hl] at hd
    cases hd
  split at h
  · cases h
    rw [isDirectory_dropLast hd] at hl
    cases hl
  split at h
  · cases h
  · cases h
    rfl

/-- The keys of the files after a write, as far as being one of them goes. -/
theorem mem_keys_put {fs : FileSystem} {l k : Location} {content : List UInt8} :
    k ∈ (fs.put l content).files.keys ↔ k = l ∨ k ∈ fs.files.keys := by
  rw [← Table.has_iff, ← Table.has_iff, Table.has, Table.has, put]
  by_cases h : k = l
  · subst h
    simp [Table.get?_insert_self]
  · simp [Table.get?_insert_of_ne _ _ h, h]

theorem isDirectory_put {fs : FileSystem} {d : Location} (name : Name) (content : List UInt8)
    (hd : fs.isDirectory d = true) (d' : Location) :
    (fs.put (d ++ [name]) content).isDirectory d' = fs.isDirectory d' := by
  rw [Bool.eq_iff_iff]
  constructor
  · intro h
    -- the only new reason to be a directory is to be above the file
    by_cases hnew : d' <+: d
    · exact isDirectory_of_isPrefix hd hnew
    rw [isDirectory_iff] at h ⊢
    rcases h with h | ⟨file, hfile, hprefix, hne⟩
    · exact .inl h
    rcases mem_keys_put.1 hfile with rfl | hfile
    · rcases List.prefix_concat_iff.1 hprefix with h | h
      · exact absurd h hne
      · exact absurd h hnew
    · exact .inr ⟨file, hfile, hprefix, hne⟩
  · intro h
    rw [isDirectory_iff] at h ⊢
    rcases h with h | ⟨file, hfile, h⟩
    · exact .inl h
    · exact .inr ⟨file, mem_keys_put.2 (.inr hfile), h⟩

/-! Walks. -/

theorem walk_append (fs : FileSystem) (l : Location) (names names' : List Name) :
    fs.walk l (names ++ names') = (fs.walk l names).bind fun l' => fs.walk l' names' := by
  induction names generalizing l with
  | nil => rfl
  | cons name rest ih =>
    rw [List.cons_append, walk, walk]
    cases fs.step l name with
    | error e => rfl
    | ok l' =>
      dsimp only
      split
      · exact ih l'
      · rfl

/-- A step depends on which locations are directories only. -/
theorem step_congr {fs fs' : FileSystem} (hdir : ∀ d, fs'.isDirectory d = fs.isDirectory d)
    (l : Location) (name : Name) : fs'.step l name = fs.step l name := by
  rw [step, step, hdir]

theorem walk_of_walk {fs fs' : FileSystem} (hdir : ∀ d, fs'.isDirectory d = fs.isDirectory d)
    (hfiles : ∀ l, fs.files.has l = true → fs'.files.has l = true) {l l' : Location}
    {names : List Name} (h : fs.walk l names = .ok l') : fs'.walk l names = .ok l' := by
  induction names generalizing l with
  | nil => exact h
  | cons name rest ih =>
    rw [walk] at h ⊢
    rw [step_congr hdir]
    cases hstep : fs.step l name with
    | error e =>
      rw [hstep] at h
      cases h
    | ok next =>
      rw [hstep] at h
      dsimp only at h ⊢
      split at h
      · rename_i hexists
        rw [hdir, if_pos]
        · exact ih h
        · rw [Bool.or_eq_true] at hexists ⊢
          exact hexists.imp_right (hfiles next)
      · cases h

/-! Reading. -/

theorem target_eq_ok {fs : FileSystem} {p : Path} {l : Location} (h : fs.target p = .ok l) :
    refused? p = none ∧ p.endsInSlash = false ∧ ∃ parent name,
      p.names = p.names.dropLast ++ [name] ∧
      fs.walk (fs.start p) p.names.dropLast = .ok parent ∧ fs.step parent name = .ok l ∧
      fs.isDirectory l = false := by
  unfold target at h
  split at h
  · cases h
  rename_i hrefused
  split at h
  · cases h
  rename_i name hname
  split at h
  · cases h
  rename_i parent hwalk
  split at h
  · cases h
  split at h
  · cases h
  rename_i hslash
  split at h
  · cases h
  rename_i l' hstep
  split at h
  · cases h
  rename_i hdir
  cases h
  have hnames : p.names = p.names.dropLast ++ [name] := by
    obtain ⟨front, hfront⟩ := List.getLast?_eq_some_iff.1 hname
    rw [hfront, List.dropLast_concat]
  exact ⟨(Option.or_eq_none_iff.1 hrefused).1, by simpa using hslash, parent, name, hnames, hwalk,
    hstep, by simpa using hdir⟩

/-- A path reads what was put where it leads to be written, unless the system refuses. -/
theorem read_put {fs : FileSystem} {p : Path} {l : Location} (htarget : fs.target p = .ok l)
    (content : List UInt8) (hallowed : fs.refusals.reading p = none) :
    (fs.put l content).read p = .ok content := by
  obtain ⟨hrefused, hslash, parent, name, hnames, hwalk, hstep, hl⟩ := target_eq_ok htarget
  obtain ⟨hparent, rfl⟩ := step_eq_append hstep hl
  have hdir := isDirectory_put name content hparent
  have hget : (fs.put (parent ++ [name]) content).files.get? (parent ++ [name]) = some content :=
    Table.get?_insert_self _ _ _
  have hagain : (fs.put (parent ++ [name]) content).walk (fs.start p) p.names =
      .ok (parent ++ [name]) := by
    rw [hnames, walk_append, walk_of_walk hdir (fun k hk => ?_) hwalk]
    · show walk _ parent [name] = _
      rw [walk, step_congr hdir, hstep]
      simp only [walk, Table.has, hget, Option.isSome_some, Bool.or_true, if_true]
    · rw [Table.has_iff] at hk ⊢
      exact mem_keys_put.2 (.inr hk)
  have hstart : (fs.put (parent ++ [name]) content).start p = fs.start p := rfl
  have hfree : (refused? p).or ((fs.put (parent ++ [name]) content).refusals.reading p) = none :=
    Option.or_eq_none_iff.2 ⟨hrefused, hallowed⟩
  rw [read, hfree, hstart]
  dsimp only
  rw [hagain]
  simp only [contentAt?, hget, hslash, Bool.false_eq_true, if_false]

theorem read_of_refused {fs : FileSystem} {p : Path} {e : SystemError}
    (h : fs.refusals.reading p = some e) : ∃ e', fs.read p = .error e' := by
  rw [read, h]
  cases refused? p with
  | none => exact ⟨e, rfl⟩
  | some e' => exact ⟨e', rfl⟩

/-! Writing. -/

/-- What went into the file at a path led from one tree to another: the path reads it if it may
    be read, no other location has changed, the directories are the same, and the system refuses
    what it refused. -/
structure Wrote (fs : FileSystem) (output : Path) (content : List UInt8)
    (fs' : FileSystem) : Prop where
  read : fs.refusals.reading output = none → fs'.read output = .ok content
  only : ∃ l, fs.target output = .ok l ∧ fs'.contentAt? l = some content ∧
    ∀ k, k ≠ l → fs'.contentAt? k = fs.contentAt? k
  directories : ∀ d, fs'.isDirectory d = fs.isDirectory d
  refusals : fs'.refusals = fs.refusals

theorem wrote_put {fs : FileSystem} {p : Path} {l : Location} (htarget : fs.target p = .ok l)
    (content : List UInt8) : fs.Wrote p content (fs.put l content) := by
  obtain ⟨-, -, parent, name, -, -, hstep, hl⟩ := target_eq_ok htarget
  obtain ⟨hparent, rfl⟩ := step_eq_append hstep hl
  refine ⟨read_put htarget content, ⟨_, htarget, Table.get?_insert_self _ _ _, fun k hk => ?_⟩,
    isDirectory_put name content hparent, rfl⟩
  exact Table.get?_insert_of_ne _ _ hk

variable {fs fs' : FileSystem} {p : Path} {content : List UInt8}

theorem wrote_of_write (h : fs.write p content = .ok fs') : fs.Wrote p content fs' := by
  unfold write at h
  split at h
  · cases h
  split at h <;> cases h
  exact wrote_put ‹_› content

theorem wrote_of_cut {reason : SystemError}
    (h : fs.write p content = .error (.write reason fs')) :
    ∃ n, fs.Wrote p (content.take n) fs' := by
  unfold write at h
  split at h
  · cases h
  split at h <;> cases h
  exact ⟨_, wrote_put ‹_› _⟩

/-- **What was written is read.** After a write that went through, the same path reads the same
    content, if it is read at all. -/
theorem read_write {bytes : List UInt8} (h : fs.write p content = .ok fs')
    (hread : fs'.read p = .ok bytes) : bytes = content := by
  have hwrote := wrote_of_write h
  cases hallowed : fs.refusals.reading p with
  | none =>
    cases (hwrote.read hallowed).symm.trans hread
    rfl
  | some e =>
    rw [← hwrote.refusals] at hallowed
    obtain ⟨e', hrefused⟩ := read_of_refused hallowed
    cases hrefused.symm.trans hread

end ScriptHost.FileSystem
