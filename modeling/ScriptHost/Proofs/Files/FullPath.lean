import Mathlib.Data.List.Induction
import ScriptHost.Source.Script

/- Full paths. A path leads on piece by piece between its slashes: an empty piece and `.`
   lead nowhere, `..` takes back the last name if there is one, and any other piece is one
   name further down. From the root this always ends at a list of proper names, and the full
   form of a path is that list written out.

   What is proved:
     1. `fullNames_eq_follow` — the components of a path lead where its pieces do.
     2. `splitSlash_ofNames` — names written out are read back; so what is written out of
        proper names is in normal form, and leads to them again.
     3. `Script.fullPath_normal` — the three together, for the path of a script. -/
namespace ScriptHost
namespace Path

/-- Where a piece between slashes leads from a location. -/
def followPiece (location : List Name) (piece : Name) : List Name :=
  if piece = [] ∨ piece = here then location
  else if piece = above then location.dropLast
  else location ++ [piece]

/-- Where the pieces of a path lead from a location. -/
def follow (location : List Name) (p : Path) : List Name :=
  (splitSlash p.bytes).foldl followPiece location

/-- A path with the working directory's in front, unless it begins at the root itself. -/
def seenFrom (directory p : Path) : Path :=
  if p.isAbsolute then p else ⟨directory.bytes ++ slash :: p.bytes⟩

/-- A name that leads from a directory to something in it. -/
structure Proper (name : Name) : Prop where
  ne_nil : name ≠ []
  ne_here : name ≠ here
  ne_above : name ≠ above
  whole : slash ∉ name

/-- An absolute path without `.` and `..`, without two slashes in a row, and without a slash at
    the end unless it is the root's. -/
structure Normal (p : Path) : Prop where
  absolute : p.isAbsolute = true
  no_here : here ∉ p.names
  no_above : above ∉ p.names
  single : ¬ [slash, slash] <:+: p.bytes
  closed : p.endsInSlash = true → p.bytes = [slash]

/-! Pieces. -/

theorem splitSlash_ne_nil (bytes : List UInt8) : splitSlash bytes ≠ [] := by
  fun_cases splitSlash bytes <;> exact List.cons_ne_nil _ _

theorem splitSlash_append (as bs : List UInt8) :
    splitSlash (as ++ slash :: bs) = splitSlash as ++ splitSlash bs := by
  induction as with
  | nil => rfl
  | cons b rest ih =>
    rw [List.cons_append, splitSlash, splitSlash, ih]
    by_cases hb : b = slash
    · rw [if_pos hb, if_pos hb]
      rfl
    · rw [if_neg hb, if_neg hb]
      cases h : splitSlash rest with
      | nil => exact absurd h (splitSlash_ne_nil rest)
      | cons name names => rfl

theorem slash_not_mem_of_mem_splitSlash {bytes : List UInt8} {piece : Name}
    (h : piece ∈ splitSlash bytes) : slash ∉ piece := by
  fun_induction splitSlash bytes generalizing piece with
  | case1 =>
    rw [List.mem_singleton.1 h]
    exact List.not_mem_nil
  | case2 rest ih =>
    rcases List.mem_cons.1 h with rfl | h
    · exact List.not_mem_nil
    · exact ih h
  | case3 b rest hb hnil => exact absurd hnil (splitSlash_ne_nil rest)
  | case4 b rest hb name names hsplit ih =>
    rw [hsplit] at ih
    rcases List.mem_cons.1 h with rfl | h
    · rintro (_ | ⟨_, hmem⟩)
      · exact hb rfl
      · exact ih List.mem_cons_self hmem
    · exact ih (List.mem_cons_of_mem _ h)

theorem splitSlash_of_not_mem {name : Name} (h : slash ∉ name) : splitSlash name = [name] := by
  induction name with
  | nil => rfl
  | cons b rest ih =>
    obtain ⟨hb, hrest⟩ := not_or.1 (mt List.mem_cons.2 h)
    rw [splitSlash, if_neg (Ne.symm hb), ih hrest]

/-- Names behind a slash each are the pieces behind the first slash. -/
theorem splitSlash_flatMap {names : List Name} (h : ∀ name ∈ names, slash ∉ name) :
    splitSlash (names.flatMap (slash :: ·)) = [] :: names := by
  induction names using List.reverseRecOn with
  | nil => rfl
  | append_singleton names name ih =>
    rw [List.flatMap_append, List.flatMap_singleton, splitSlash_append,
      ih fun n hn => h n (List.mem_append_left _ hn),
      splitSlash_of_not_mem (h name (List.mem_append_right _ List.mem_cons_self))]
    rfl

/-! Where pieces lead. -/

theorem follow_nil_piece (location : List Name) : followPiece location [] = location :=
  if_pos (.inl rfl)

theorem followPiece_proper {location : List Name} {name : Name} (h : Proper name) :
    followPiece location name = location ++ [name] := by
  rw [followPiece, if_neg (not_or.2 ⟨h.ne_nil, h.ne_here⟩), if_neg h.ne_above]

theorem foldl_followPiece {names : List Name} (h : ∀ name ∈ names, Proper name)
    (location : List Name) : names.foldl followPiece location = location ++ names := by
  induction names generalizing location with
  | nil => rw [List.foldl_nil, List.append_nil]
  | cons name rest ih =>
    rw [List.foldl_cons, followPiece_proper (h name List.mem_cons_self),
      ih fun n hn => h n (List.mem_cons_of_mem _ hn), List.append_assoc]
    rfl

/-- A piece leads from proper names to proper names. -/
theorem proper_followPiece {location : List Name} {piece : Name}
    (hlocation : ∀ name ∈ location, Proper name) (hpiece : slash ∉ piece) :
    ∀ name ∈ followPiece location piece, Proper name := by
  intro name hname
  unfold followPiece at hname
  split at hname
  · exact hlocation name hname
  rename_i hnot
  obtain ⟨hnil, hhere⟩ := not_or.1 hnot
  split at hname
  · exact hlocation name (List.dropLast_subset _ hname)
  rename_i habove
  rcases List.mem_append.1 hname with hname | hname
  · exact hlocation name hname
  · rw [List.mem_singleton.1 hname]
    exact ⟨hnil, hhere, habove, hpiece⟩

theorem proper_follow (p : Path) : ∀ name ∈ follow [] p, Proper name := by
  have along : ∀ (pieces location : List Name), (∀ name ∈ location, Proper name) →
      (∀ piece ∈ pieces, slash ∉ piece) →
      ∀ name ∈ pieces.foldl followPiece location, Proper name := by
    intro pieces
    induction pieces with
    | nil => exact fun _ h _ => h
    | cons piece rest ih =>
      intro location hlocation hpieces
      obtain ⟨hpiece, hrest⟩ := List.forall_mem_cons.1 hpieces
      exact ih _ (proper_followPiece hlocation hpiece) hrest
  exact along _ [] (List.forall_mem_nil _) fun _ => slash_not_mem_of_mem_splitSlash

theorem follow_append (location : List Name) (as bs : List UInt8) :
    follow location ⟨as ++ slash :: bs⟩ = follow (follow location ⟨as⟩) ⟨bs⟩ := by
  rw [follow, splitSlash_append, List.foldl_append]
  rfl

/-- A component leads where the name it was made of does. -/
theorem follow_ofName {location : List Name} {name : Name} (hnil : name ≠ [])
    (hhere : name ≠ here) :
    Component.follow location (.ofName name) = followPiece location name := by
  rw [followPiece, if_neg (not_or.2 ⟨hnil, hhere⟩), Component.ofName]
  split <;> rfl

/-- **The components of a path lead where its pieces do.** -/
theorem fullNames_eq_follow (directory : List Name) (p : Path) :
    p.fullNames directory = follow (if p.isAbsolute then [] else directory) p := by
  -- empty pieces and `.` are left out among the components, and lead nowhere among the pieces
  have named : ∀ (pieces location : List Name),
      (((pieces.filter (!·.isEmpty)).filter (· ≠ here)).map Component.ofName).foldl
        Component.follow location = pieces.foldl followPiece location := by
    intro pieces
    induction pieces with
    | nil => exact fun _ => rfl
    | cons piece rest ih =>
      intro location
      rw [List.foldl_cons, ← ih]
      by_cases hnil : piece = []
      · rw [hnil, follow_nil_piece]
        rfl
      by_cases hhere : piece = here
      · rw [hhere, followPiece, if_pos (.inr rfl)]
        rfl
      · rw [List.filter_cons_of_pos (by simpa using hnil),
          List.filter_cons_of_pos (by simpa using hhere), List.map_cons, List.foldl_cons,
          follow_ofName hnil hhere]
  rw [fullNames, components, List.foldl_append, names, named, follow]
  cases p.isAbsolute with
  | true => rfl
  | false =>
    rw [if_neg Bool.false_ne_true, if_neg Bool.false_ne_true]
    split <;> rfl

/-! Names written out. -/

theorem ofNames_nil : ofNames [] = ⟨[slash]⟩ := rfl

theorem ofNames_of_ne_nil {names : List Name} (h : names ≠ []) :
    ofNames names = ⟨names.flatMap (slash :: ·)⟩ := by
  cases names with
  | nil => exact absurd rfl h
  | cons name rest => rfl

theorem isAbsolute_ofNames (names : List Name) : (ofNames names).isAbsolute = true := by
  cases names <;> exact decide_eq_true rfl

theorem splitSlash_ofNames {names : List Name} (h : ∀ name ∈ names, Proper name) :
    splitSlash (ofNames names).bytes = [] :: if names = [] then [[]] else names := by
  by_cases hnil : names = []
  · rw [if_pos hnil, hnil]
    rfl
  · rw [if_neg hnil, ofNames_of_ne_nil hnil]
    exact splitSlash_flatMap fun name hname => (h name hname).whole

theorem names_ofNames {names : List Name} (h : ∀ name ∈ names, Proper name) :
    (ofNames names).names = names := by
  rw [Path.names, splitSlash_ofNames h]
  by_cases hnil : names = []
  · rw [if_pos hnil, hnil]
    rfl
  · rw [if_neg hnil, List.filter_cons_of_neg (by decide)]
    exact List.filter_eq_self.2 fun name hname => by simpa using (h name hname).ne_nil

theorem follow_ofNames {names : List Name} (h : ∀ name ∈ names, Proper name) :
    follow [] (ofNames names) = names := by
  rw [follow, splitSlash_ofNames h, List.foldl_cons, follow_nil_piece]
  by_cases hnil : names = []
  · rw [if_pos hnil, hnil]
    rfl
  · rw [if_neg hnil]
    exact foldl_followPiece h []

/-- Behind a slash the pieces of proper names are not empty, except that of the root. -/
theorem ofNames_eq_root {names : List Name} (h : ∀ name ∈ names, Proper name)
    {before after : List Name} (hne : before ≠ [])
    (hsplit : splitSlash (ofNames names).bytes = before ++ [] :: after) : names = [] := by
  by_contra hnil
  rw [splitSlash_ofNames h, if_neg hnil] at hsplit
  obtain ⟨first, rest, rfl⟩ := List.exists_cons_of_ne_nil hne
  have hmem : [] ∈ names := by
    rw [(List.cons.inj hsplit).2]
    exact List.mem_append_right _ List.mem_cons_self
  exact (h [] hmem).ne_nil rfl

/-- **Proper names are written out in normal form.** -/
theorem normal_ofNames {names : List Name} (h : ∀ name ∈ names, Proper name) :
    (ofNames names).Normal where
  absolute := isAbsolute_ofNames names
  no_here hmem := by
    rw [names_ofNames h] at hmem
    exact (h here hmem).ne_here rfl
  no_above hmem := by
    rw [names_ofNames h] at hmem
    exact (h above hmem).ne_above rfl
  -- two slashes in a row, or one at the end, part pieces of which one is empty
  single := by
    rintro ⟨before, after, hbytes⟩
    have hsplit : splitSlash (ofNames names).bytes =
        splitSlash before ++ [] :: splitSlash after := by
      rw [← hbytes, List.append_assoc]
      exact splitSlash_append before (slash :: after)
    rw [ofNames_eq_root h (splitSlash_ne_nil before) hsplit] at hbytes
    have hlength := congrArg List.length hbytes
    simp only [List.length_append, ofNames_nil, List.length_cons, List.length_nil] at hlength
    omega
  closed hend := by
    obtain ⟨before, hbytes⟩ := List.getLast?_eq_some_iff.1 (of_decide_eq_true hend)
    have hsplit : splitSlash (ofNames names).bytes = splitSlash before ++ [[]] := by
      rw [hbytes]
      exact splitSlash_append before []
    rw [ofNames_eq_root h (splitSlash_ne_nil before) hsplit]
    rfl

/-! Full paths. -/

/-- From a working directory that a path leads to, the full form of a path is that of the two
    put together. -/
theorem full?_eq (directory p : Path) (h : p.isEmpty = false) :
    p.full? (follow [] directory) = some (ofNames (follow [] (seenFrom directory p))) := by
  rw [full?, h, fullNames_eq_follow, seenFrom]
  cases p.isAbsolute with
  | true => rfl
  | false => exact congrArg (fun names => some (ofNames names)) (follow_append [] _ _).symm

theorem full?_ofNames {names : List Name} (h : ∀ name ∈ names, Proper name)
    (directory : List Name) : (ofNames names).full? directory = some (ofNames names) := by
  have hne : (ofNames names).isEmpty = false := by
    cases names <;> rfl
  rw [full?, hne, fullNames_eq_follow, isAbsolute_ofNames]
  exact congrArg (fun names => some (ofNames names)) (follow_ofNames h)

end Path

namespace Script

open ScriptHost.Path

/-- **The full path is a normal form.** Only a script with the empty path has none. Any other has
    the one that its pieces lead to, behind those of the working directory if it does not begin at
    the root: an absolute path without `.`, `..` and needless slashes, which is its own full path
    wherever it is seen from. -/
theorem fullPath_normal (script : Script) (directory : Path) :
    ((∃ e, script.fullPath (follow [] directory) = .error e) ↔ script.path.isEmpty = true) ∧
    (script.path.isEmpty = false → ∃ p, script.fullPath (follow [] directory) = .ok p ∧ p.Normal ∧
      p = ofNames (follow [] (seenFrom directory script.path)) ∧
      ∀ elsewhere : Location, { script with path := p }.fullPath elsewhere = .ok p) := by
  cases hpath : script.path.isEmpty with
  | true =>
    have hfull : script.path.full? (Path.follow [] directory) = none :=
      (full?_eq_none_iff _ _).2 hpath
    refine ⟨iff_of_true ⟨.system s!"cannot determine full path of {script.path.display}" .emptyPath,
      ?_⟩ rfl, nofun⟩
    rw [fullPath, hfull]
  | false =>
    have hfull : script.fullPath (follow [] directory) =
        .ok (ofNames (follow [] (seenFrom directory script.path))) := by
      rw [fullPath, full?_eq directory script.path hpath]
    have hproper := proper_follow (seenFrom directory script.path)
    refine ⟨iff_of_false ?_ nofun, fun _ => ⟨_, hfull, normal_ofNames hproper, rfl, ?_⟩⟩
    · rintro ⟨e, he⟩
      cases hfull.symm.trans he
    · intro elsewhere
      rw [fullPath, full?_ofNames hproper]

/-- A script whose path climbs as far as two directories up, with needless pieces in it. -/
def climbing : Script := .ofText (.ofText "../x//.././../b.js/.") ""

/-- Seen from a directory right below the root, it climbs no further than the root. -/
theorem fullPath_normal_climbing :
    climbing.path.isEmpty = false ∧
    ∃ p, climbing.fullPath (follow [] (.ofText "/home/")) = .ok p ∧ p.Normal ∧
      p = .ofText "/b.js" ∧
      ∀ elsewhere : Location, { climbing with path := p }.fullPath elsewhere = .ok p := by
  have hpath : climbing.path.isEmpty = false := by decide +kernel
  have hplace : ofNames (follow [] (seenFrom (.ofText "/home/") climbing.path)) =
      .ofText "/b.js" := by decide +kernel
  obtain ⟨p, hfull, hnormal, heq, hself⟩ := (fullPath_normal climbing (.ofText "/home/")).2 hpath
  exact ⟨hpath, p, hfull, hnormal, heq.trans hplace, hself⟩

end Script
end ScriptHost
