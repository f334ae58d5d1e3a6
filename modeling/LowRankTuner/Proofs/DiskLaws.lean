import Mathlib
import LowRankTuner.Disk.Basic
/-!
# Laws of the file tree

What each operation of `Disk` does, stated through `entryAt`, the entry at an absolute
location.  A write sets one location; `createDirAll` puts a directory at every missing prefix of
its path and changes nothing else; `removeDirAll` empties every location at or under its path.
`ChangesWithin d d' S` says that `d'` has the working directory of `d` and the entry of `d` at
every location outside `S`, so that the effect of a sequence of operations is bounded by the
union of their sets.  A disk is well formed when no location has two entries, and every
operation keeps it so.

Paths come first: `join p n` with a single name `n` locates one level below `p`, and the parent
of such a path locates `p` again.
-/

namespace LowRankTuner.Disk

/-! ## Paths -/

/-- A single component of a path: not empty, not `.` or `..`, and without a separator. -/
def IsName (n : String) : Prop := n ≠ "" ∧ n ≠ "." ∧ n ≠ ".." ∧ '/' ∉ n.toList

/-- The location reached from `acc` by one part of a path. -/
def enter (acc : List String) (c : String) : List String :=
  if c == "" || c == "." then acc else if c == ".." then acc.dropLast else acc ++ [c]

theorem resolve_eq_foldl (cwd : List String) (p : String) :
    resolve cwd p = (segments p).foldl enter (if isAbsolute p then [] else cwd) := rfl

@[simp] theorem enter_empty (acc : List String) : enter acc "" = acc := by simp [enter]

theorem isAbsolute_eq_head (p : String) : isAbsolute p = (p.toList.head? == some '/') := by
  rw [Bool.eq_iff_iff]
  simp only [isAbsolute, String.startsWith_string_iff, beq_iff_eq]
  cases p.toList <;> simp [eq_comm]

theorem endsWith_slash_iff (p : String) : p.endsWith "/" = true ↔ ∃ t, p.toList = t ++ ['/'] := by
  simp only [← String.endsWith_toSlice, String.Slice.endsWith_string_iff, String.copy_toSlice]
  constructor <;> rintro ⟨t, ht⟩ <;> exact ⟨t, ht.symm⟩

theorem isAbsolute_append {p : String} (q : String) (hp : p ≠ "") :
    isAbsolute (p ++ q) = isAbsolute p := by
  obtain ⟨c, cs, hc⟩ := List.exists_cons_of_ne_nil (by simpa using hp : p.toList ≠ [])
  simp [isAbsolute_eq_head, String.toList_append, hc]

theorem segments_append_slash (p q : String) :
    segments (p ++ "/" ++ q) = segments p ++ segments q := by
  simp [segments, String.toList_append, List.splitOn_append_cons_self]

theorem segments_slash_append (x : String) : segments ("/" ++ x) = "" :: segments x := by
  simp [segments, String.toList_append, List.splitOn_cons_eq_if_modifyHead]

/-- No part of a path holds a separator. -/
theorem slash_not_mem_of_mem_segments {p s : String} (h : s ∈ segments p) : '/' ∉ s.toList := by
  suffices ∀ (l : List Char), ∀ piece ∈ l.splitOn '/', '/' ∉ piece by
    obtain ⟨piece, hp, rfl⟩ := List.mem_map.1 h
    simpa using this _ piece hp
  intro l
  induction l with
  | nil => simp
  | cons x xs ih =>
    rw [List.splitOn_cons_eq_if_modifyHead]
    split
    · simpa using ih
    · rename_i hx
      obtain ⟨first, rest, hfr⟩ := List.exists_cons_of_ne_nil (List.splitOn_ne_nil '/' xs)
      rw [hfr] at ih ⊢
      simp only [List.modifyHead_cons, List.mem_cons, forall_eq_or_imp] at ih ⊢
      refine ⟨?_, ih.2⟩
      simp only [not_or]
      exact ⟨fun h => hx (by subst h; rfl), ih.1⟩

/-- Empty parts and `.` parts do not move a location. -/
theorem foldl_enter_filter (l : List String) (acc : List String) :
    (l.filter fun c => c != "" && c != ".").foldl enter acc = l.foldl enter acc := by
  induction l generalizing acc with
  | nil => rfl
  | cons c l ih =>
    by_cases hc : c = "" ∨ c = "."
    · have hskip : enter acc c = acc := by rcases hc with rfl | rfl <;> simp [enter]
      rcases hc with rfl | rfl <;> simp [ih, hskip]
    · have hkeep : (c != "" && c != ".") = true := by simpa using hc
      simp only [List.filter_cons, hkeep, if_true, List.foldl_cons, ih]

theorem resolve_eq_foldl_components (cwd : List String) (p : String) :
    resolve cwd p = (components p).foldl enter (if isAbsolute p then [] else cwd) := by
  rw [resolve_eq_foldl, components, foldl_enter_filter]

namespace IsName

variable {n : String} (h : IsName n)
include h

theorem segments_eq : segments n = [n] := by
  simp [segments, List.splitOn_eq_singleton h.2.2.2]

theorem enter_eq (acc : List String) : enter acc n = acc ++ [n] := by
  simp [enter, h.1, h.2.1, h.2.2.1]

theorem isAbsolute_eq : isAbsolute n = false := by
  rw [isAbsolute_eq_head]
  cases hn : n.toList with
  | nil => simp_all
  | cons c cs =>
    have : c ≠ '/' := fun hc => h.2.2.2 (by simp [hn, hc])
    simp [this]

theorem components_eq : components n = [n] := by
  simp [components, h.segments_eq, h.1, h.2.1]

end IsName

/-- `join` puts a name one level below a path: after the empty path it stands alone, after a
separator it follows, and otherwise a separator comes first. -/
theorem components_join_name {n : String} (h : IsName n) (p : String) :
    components (join p n) = components p ++ [n] := by
  unfold join
  by_cases hp : p = ""
  · subst hp
    simp only [h.isAbsolute_eq, Bool.false_or, beq_self_eq_true, if_true]
    rw [h.components_eq]
    simp [components, segments]
  · simp only [h.isAbsolute_eq, Bool.false_or, beq_iff_eq, hp, if_false]
    split
    · rename_i hend
      obtain ⟨t, ht⟩ := (endsWith_slash_iff p).1 hend
      have hsp : segments p = (t.splitOn '/').map String.ofList ++ [""] := by
        simp [segments, ht, List.splitOn_append_cons_self]
      have hsn : segments (p ++ n) = (t.splitOn '/').map String.ofList ++ [n] := by
        rw [← h.segments_eq]
        simp [segments, String.toList_append, ht, List.splitOn_append_cons_self]
      simp [components, hsp, hsn, h.1, h.2.1]
    · simp [components, segments_append_slash, h.segments_eq, h.1, h.2.1]

theorem isAbsolute_join_name {n : String} (h : IsName n) {p : String} (hp : p ≠ "") :
    isAbsolute (join p n) = isAbsolute p := by
  unfold join
  simp only [h.isAbsolute_eq, Bool.false_or, beq_iff_eq, hp, if_false]
  split
  · exact isAbsolute_append _ hp
  · rw [String.append_assoc, isAbsolute_append _ hp]

theorem resolve_join_name {n : String} (h : IsName n) (cwd : List String) (p : String) :
    resolve cwd (join p n) = resolve cwd p ++ [n] := by
  rw [resolve_eq_foldl_components, resolve_eq_foldl_components, components_join_name h,
    List.foldl_append, List.foldl_cons, List.foldl_nil, h.enter_eq]
  by_cases hp : p = ""
  · subst hp
    simp [join, h.isAbsolute_eq, isAbsolute_eq_head]
  · rw [isAbsolute_join_name h hp]

theorem locate_join_name {n : String} (h : IsName n) (d : Disk) (p : String) :
    d.locate (join p n) = d.locate p ++ [n] :=
  resolve_join_name h d.cwd p

/-- A name joined to a path never leaves it ending in a separator. -/
theorem endsWith_join_name {n : String} (h : IsName n) (p : String) :
    (join p n).endsWith "/" = false := by
  obtain ⟨pre, hpre⟩ : ∃ pre, (join p n).toList = pre ++ n.toList := by
    unfold join
    split
    · exact ⟨[], rfl⟩
    · split
      · exact ⟨p.toList, by simp⟩
      · exact ⟨p.toList ++ ['/'], by simp⟩
  rw [Bool.eq_false_iff]
  intro hend
  obtain ⟨t, ht⟩ := (endsWith_slash_iff _).1 hend
  have hlast : (pre ++ n.toList).getLast? = some '/' := by rw [← hpre, ht]; simp
  -- the last character of the path is that of the name, which is no separator
  cases hn : n.toList.getLast? with
  | none => exact h.1 (by simpa using hn)
  | some c =>
    rw [List.getLast?_append, hn, Option.some_or, Option.some.injEq] at hlast
    exact h.2.2.2 (hlast ▸ List.mem_of_getLast? hn)

theorem mem_components {p c : String} (h : c ∈ components p) :
    c ≠ "" ∧ c ≠ "." ∧ '/' ∉ c.toList := by
  obtain ⟨hseg, hkeep⟩ := List.mem_filter.1 h
  simp only [Bool.and_eq_true, bne_iff_ne, ne_eq] at hkeep
  exact ⟨hkeep.1, hkeep.2, slash_not_mem_of_mem_segments hseg⟩

/-- Parts without a separator, joined by separators, split back into themselves. -/
theorem segments_intercalate {cs : List String} (hcs : cs ≠ [])
    (h : ∀ c ∈ cs, '/' ∉ c.toList) : segments ("/".intercalate cs) = cs := by
  have hls : ∀ l ∈ cs.map String.toList, '/' ∉ l := by
    simpa using h
  simp [segments, String.toList_intercalate, List.splitOn_intercalate '/' hls (by simpa using hcs)]

theorem isAbsolute_intercalate {c : String} {cs : List String} (hc : c ≠ "")
    (hslash : '/' ∉ c.toList) : isAbsolute ("/".intercalate (c :: cs)) = false := by
  obtain ⟨x, xs, hx⟩ := List.exists_cons_of_ne_nil (by simpa using hc : c.toList ≠ [])
  have hne : x ≠ '/' := fun e => hslash (by simp [hx, e])
  cases cs <;> simp [isAbsolute_eq_head, String.toList_intercalate, hx, hne]

theorem parent_join_name {n : String} (h : IsName n) (p : String) :
    parent (join p n) =
      some ((if isAbsolute (join p n) then "/" else "") ++ "/".intercalate (components p)) := by
  obtain ⟨a, as, hcs⟩ : ∃ a as, components p ++ [n] = a :: as :=
    List.exists_cons_of_ne_nil (by simp)
  unfold parent
  simp only [components_join_name h, hcs]
  rw [← hcs, List.dropLast_concat]
  split <;> simp

/-- The parent of a name joined to `p`, when it is not empty, is `p` again. -/
theorem resolve_parent_join {n : String} (h : IsName n) (cwd : List String) {p q : String}
    (hq : parent (join p n) = some q) (hne : q ≠ "") : resolve cwd q = resolve cwd p := by
  rw [parent_join_name h, Option.some.injEq] at hq
  subst hq
  have hp : p ≠ "" := by
    rintro rfl
    simp [join, h.isAbsolute_eq, components, segments] at hne
  rw [isAbsolute_join_name h hp] at hne ⊢
  rw [resolve_eq_foldl_components cwd p]
  cases habs : isAbsolute p with
  | false =>
    cases hcs : components p with
    | nil => simp [habs, hcs] at hne
    | cons c cs =>
      have hc := mem_components (hcs ▸ List.mem_cons_self : c ∈ components p)
      have hsl : ∀ x ∈ c :: cs, '/' ∉ x.toList := fun x hx => (mem_components (hcs ▸ hx)).2.2
      simp only [Bool.false_eq_true, if_false, String.empty_append]
      rw [resolve_eq_foldl, segments_intercalate (List.cons_ne_nil _ _) hsl,
        isAbsolute_intercalate hc.1 hc.2.2]
      rfl
  | true =>
    have habs' : isAbsolute ("/" ++ "/".intercalate (components p)) = true := by
      simp [isAbsolute_eq_head]
    simp only [if_true]
    rw [resolve_eq_foldl, habs', if_pos rfl, segments_slash_append]
    cases hcs : components p with
    | nil => simp [segments]
    | cons c cs =>
      have hsl : ∀ x ∈ c :: cs, '/' ∉ x.toList := fun x hx => (mem_components (hcs ▸ hx)).2.2
      rw [segments_intercalate (List.cons_ne_nil _ _) hsl]
      simp

/-! ## Entries -/

@[simp] theorem entryAt_nil (d : Disk) : d.entryAt [] = some .dir := rfl

theorem entryAt_of_ne_nil (d : Disk) {k : List String} (hk : k ≠ []) :
    d.entryAt k = (d.entries.find? (·.1 == k)).map (·.2) := by
  simp [entryAt, hk]

/-- A tree of directories holds no file anywhere. -/
theorem entryAt_ne_file {d : Disk} (h : ∀ e ∈ d.entries, e.2 = .dir) (k : List String)
    (b : ByteArray) : d.entryAt k ≠ some (.file b) := by
  unfold entryAt
  split
  · simp
  · intro he
    obtain ⟨e, hfind, he2⟩ := Option.map_eq_some_iff.1 he
    rw [h e (List.mem_of_find?_eq_some hfind)] at he2
    cases he2

theorem locate_eq_of_cwd {d d' : Disk} (h : d'.cwd = d.cwd) : d'.locate = d.locate := by
  funext p
  simp [locate, h]

/-- Looking a location up among the entries whose locations pass `keep`. -/
theorem find?_filter_key (l : List (List String × Entry)) (keep : List String → Bool)
    (k : List String) :
    (l.filter (keep ·.1)).find? (·.1 == k) = if keep k then l.find? (·.1 == k) else none := by
  induction l with
  | nil => simp
  | cons x xs ih =>
    by_cases hx : x.1 = k
    · by_cases hk : keep k
      · simp [hx, hk]
      · simpa [List.filter_cons, hx, hk] using ih
    · by_cases hkx : keep x.1 <;> simp [hkx, hx, ih]

/-- Keeping the entries at the locations that pass `keep` keeps the entry at a location that
passes and removes the one at a location that does not. -/
theorem entryAt_filter (d : Disk) (keep : List String → Bool) {k : List String} (hk : k ≠ []) :
    ({ d with entries := d.entries.filter (keep ·.1) } : Disk).entryAt k =
      if keep k then d.entryAt k else none := by
  rw [entryAt_of_ne_nil _ hk, entryAt_of_ne_nil _ hk, find?_filter_key]
  split <;> rfl

theorem entryAt_setEntry (d : Disk) {k : List String} (e : Entry) (hk : k ≠ [])
    (k' : List String) : (d.setEntry k e).entryAt k' = if k' = k then some e else d.entryAt k' := by
  by_cases hk' : k' = []
  · subst hk'
    simp [Ne.symm hk]
  · rw [entryAt_of_ne_nil _ hk', setEntry]
    simp only [List.find?_append, find?_filter_key d.entries (· != k) k']
    by_cases heq : k' = k
    · simp [heq]
    · have hkeep : (k' != k) = true := by simp [heq]
      have hlast : [(k, e)].find? (·.1 == k') = none := by simp [Ne.symm heq]
      simp only [hkeep, if_true, hlast, Option.or_none, heq, if_false, entryAt_of_ne_nil _ hk']

/-- The disk without every entry at or under the location `k`. -/
def prune (d : Disk) (k : List String) : Disk :=
  { d with entries := d.entries.filter (fun e => e.1.take k.length != k) }

theorem entryAt_prune (d : Disk) (k k' : List String) :
    (d.prune k).entryAt k' = if k' ≠ [] ∧ k <+: k' then none else d.entryAt k' := by
  by_cases hk' : k' = []
  · subst hk'
    simp
  · rw [prune, entryAt_filter _ (fun k' => k'.take k.length != k) hk']
    by_cases hp : k <+: k'
    · have hkeep : (k'.take k.length != k) = false := by
        simpa using (List.prefix_iff_eq_take.1 hp).symm
      simp [hkeep, hp, hk']
    · have hkeep : (k'.take k.length != k) = true := by
        have hne : k'.take k.length ≠ k := fun h => hp (List.prefix_iff_eq_take.2 h.symm)
        simpa using hne
      simp [hkeep, hp]

@[simp] theorem prune_cwd (d : Disk) (k : List String) : (d.prune k).cwd = d.cwd := rfl

@[simp] theorem setEntry_cwd (d : Disk) (k : List String) (e : Entry) :
    (d.setEntry k e).cwd = d.cwd := rfl

/-! ## Well-formed disks -/

/-- A disk whose every location has at most one entry. -/
structure WellFormed (d : Disk) : Prop where
  keys : (d.entries.map Prod.fst).Nodup

/-- On a well-formed disk an entry is determined by its location. -/
theorem WellFormed.eq_of_mem {d : Disk} (h : d.WellFormed) {x y : List String × Entry}
    (hx : x ∈ d.entries) (hy : y ∈ d.entries) (hxy : x.1 = y.1) : x = y := by
  have key : ∀ l : List (List String × Entry), (l.map Prod.fst).Nodup →
      x ∈ l → y ∈ l → x = y := by
    intro l
    induction l with
    | nil => simp
    | cons a l ih =>
      intro hnd hx hy
      simp only [List.map_cons, List.nodup_cons, List.mem_map] at hnd
      rcases List.mem_cons.1 hx with rfl | hx' <;> rcases List.mem_cons.1 hy with rfl | hy'
      · rfl
      · exact absurd ⟨y, hy', hxy.symm⟩ hnd.1
      · exact absurd ⟨x, hx', hxy⟩ hnd.1
      · exact ih hnd.2 hx' hy'
  exact key d.entries h.keys hx hy

/-- On a well-formed disk the entry at a location is the one the disk lists there. -/
theorem WellFormed.entryAt_eq_some_iff {d : Disk} (h : d.WellFormed) {k : List String}
    (hk : k ≠ []) (v : Entry) : d.entryAt k = some v ↔ (k, v) ∈ d.entries := by
  rw [entryAt_of_ne_nil _ hk, Option.map_eq_some_iff]
  constructor
  · rintro ⟨x, hfind, rfl⟩
    have hkey : x.1 = k := by
      have := List.find?_some hfind
      simpa using this
    rw [← hkey]
    exact List.mem_of_find?_eq_some hfind
  · intro hmem
    cases hfind : d.entries.find? (·.1 == k) with
    | none =>
      have := List.find?_eq_none.1 hfind (k, v) hmem
      simp at this
    | some x =>
      have hkey : x.1 = k := by
        have := List.find?_some hfind
        simpa using this
      have hx := h.eq_of_mem (List.mem_of_find?_eq_some hfind) hmem hkey
      exact ⟨x, rfl, by rw [hx]⟩

theorem WellFormed.setEntry {d : Disk} (h : d.WellFormed) (k : List String) (e : Entry) :
    (d.setEntry k e).WellFormed where
  keys := by
    simp only [Disk.setEntry, List.map_append, List.map_cons, List.map_nil]
    refine List.nodup_append.2 ⟨(h.keys.sublist ((List.filter_sublist).map _)), by simp, ?_⟩
    intro a ha b hb
    simp only [List.mem_singleton] at hb
    subst hb
    obtain ⟨x, hx, rfl⟩ := List.mem_map.1 ha
    simpa using (List.mem_filter.1 hx).2

theorem WellFormed.prune {d : Disk} (h : d.WellFormed) (k : List String) :
    (d.prune k).WellFormed where
  keys := h.keys.sublist ((List.filter_sublist).map _)

/-! ## What an operation may change -/

/-- `d'` keeps the working directory of `d` and its entry at every location outside `S`. -/
structure ChangesWithin (d d' : Disk) (S : List String → Prop) : Prop where
  cwd : d'.cwd = d.cwd
  entryAt : ∀ k, ¬ S k → d'.entryAt k = d.entryAt k

namespace ChangesWithin

variable {d₁ d₂ d₃ : Disk} {S T : List String → Prop}

theorem refl (d : Disk) (S : List String → Prop) : ChangesWithin d d S := ⟨rfl, fun _ _ => rfl⟩

theorem trans (h₁ : ChangesWithin d₁ d₂ S) (h₂ : ChangesWithin d₂ d₃ T) :
    ChangesWithin d₁ d₃ (fun k => S k ∨ T k) where
  cwd := h₂.cwd.trans h₁.cwd
  entryAt k hk := by
    rw [not_or] at hk
    rw [h₂.entryAt k hk.2, h₁.entryAt k hk.1]

theorem mono (h : ChangesWithin d₁ d₂ S) (hST : ∀ k, S k → T k) : ChangesWithin d₁ d₂ T :=
  ⟨h.cwd, fun k hk => h.entryAt k (fun hs => hk (hST k hs))⟩

theorem locate_eq (h : ChangesWithin d₁ d₂ S) : d₂.locate = d₁.locate := locate_eq_of_cwd h.cwd

end ChangesWithin

theorem changesWithin_setEntry (d : Disk) {k : List String} (e : Entry) (hk : k ≠ []) :
    ChangesWithin d (d.setEntry k e) (· = k) :=
  ⟨rfl, fun k' hk' => by rw [entryAt_setEntry _ _ hk, if_neg hk']⟩

theorem changesWithin_prune (d : Disk) (k : List String) :
    ChangesWithin d (d.prune k) (k <+: ·) :=
  ⟨rfl, fun k' hk' => by rw [entryAt_prune, if_neg (fun h => hk' h.2)]⟩

/-! ## Writing a file -/

section Write

variable {d d' : Disk} {p : String} {b : ByteArray}

/-- A write succeeds exactly when the directory above the path exists, no directory stands at
the path and the path does not end with a separator; it then sets the file there. -/
theorem writeBytes_eq (hparent : d.entryAt (d.locate p).dropLast = some .dir)
    (hnotdir : d.entryAt (d.locate p) ≠ some .dir) (hslash : p.endsWith "/" = false) :
    d.writeBytes p b = .ok (d.setEntry (d.locate p) (.file b)) := by
  unfold writeBytes
  simp only [hparent]
  cases h : d.entryAt (d.locate p) with
  | none => simp [hslash]
  | some e =>
    cases e with
    | file _ => simp [hslash]
    | dir => exact absurd h hnotdir

/-- A file named `f` is written in an existing directory unless a directory has that name. -/
theorem writeBytes_join_name {path f : String} (hf : IsName f)
    (hdir : d.entryAt (d.locate path) = some .dir) (hnd : d.entryAt (d.locate path ++ [f]) ≠ some .dir) :
    d.writeBytes (join path f) b = .ok (d.setEntry (d.locate path ++ [f]) (.file b)) := by
  rw [← locate_join_name hf] at hnd ⊢
  refine writeBytes_eq ?_ hnd (endsWith_join_name hf path)
  rw [locate_join_name hf, List.dropLast_concat]
  exact hdir

theorem writeBytes_inv (h : d.writeBytes p b = .ok d') :
    d' = d.setEntry (d.locate p) (.file b) ∧ d.locate p ≠ [] := by
  have hne : d.locate p ≠ [] := by
    intro hnil
    simp [writeBytes, hnil] at h
  refine ⟨?_, hne⟩
  unfold writeBytes at h
  cases hpar : d.entryAt (d.locate p).dropLast with
  | none => simp [hpar] at h
  | some ep =>
    cases ep with
    | file _ => simp [hpar] at h
    | dir =>
      cases hent : d.entryAt (d.locate p) with
      | none =>
        simp only [hpar, hent] at h
        split at h
        · cases h
        · exact (Except.ok.inj h).symm
      | some e =>
        cases e with
        | dir => simp [hpar, hent] at h
        | file _ =>
          simp only [hpar, hent] at h
          split at h
          · cases h
          · exact (Except.ok.inj h).symm

/-- A write that succeeds did not stand on a directory. -/
theorem writeBytes_not_dir (h : d.writeBytes p b = .ok d') : d.entryAt (d.locate p) ≠ some .dir := by
  intro hd
  unfold writeBytes at h
  simp only [hd] at h
  cases hpar : d.entryAt (d.locate p).dropLast with
  | none => simp [hpar] at h
  | some e => cases e <;> simp [hpar] at h

theorem writeBytes_changes (h : d.writeBytes p b = .ok d') :
    ChangesWithin d d' (· = d.locate p) ∧ d'.entryAt (d.locate p) = some (.file b) := by
  obtain ⟨rfl, hne⟩ := writeBytes_inv h
  exact ⟨changesWithin_setEntry d _ hne, by simp [entryAt_setEntry _ _ hne]⟩

theorem WellFormed.writeBytes (hwf : d.WellFormed) (h : d.writeBytes p b = .ok d') :
    d'.WellFormed := by
  obtain ⟨rfl, -⟩ := writeBytes_inv h
  exact hwf.setEntry _ _

end Write

/-! ## Making directories -/

/-- The step of `createDirAll` along the location `k` that makes its prefix of length
`i + 1`. -/
def mkdirStep (k : List String) (acc : Disk) (i : Nat) : Except String Disk :=
  let pre := k.take (i + 1)
  match acc.entryAt pre with
  | some .dir => .ok acc
  | some (.file _) => .error (if i + 1 == k.length then alreadyExists else notADirectory)
  | none => .ok (acc.setEntry pre .dir)

/-- `acc` is `d` with a directory put at every nonempty prefix of `pre` where `d` had
nothing. -/
structure DirsMade (d acc : Disk) (pre : List String) : Prop where
  cwd : acc.cwd = d.cwd
  entryAt : ∀ k', acc.entryAt k' =
    if k' ≠ [] ∧ k' <+: pre ∧ d.entryAt k' = none then some .dir else d.entryAt k'
  dirs : ∀ k', k' <+: pre → acc.entryAt k' = some .dir
  wf : d.WellFormed → acc.WellFormed

namespace DirsMade

variable {d acc : Disk} {pre : List String}

theorem nil (d : Disk) : DirsMade d d [] where
  cwd := rfl
  entryAt k' := by
    by_cases hk : k' = [] <;> simp [hk]
  dirs k' hk := by rw [List.prefix_nil.1 hk]; rfl
  wf h := h

theorem changes (h : DirsMade d acc pre) : ChangesWithin d acc (· <+: pre) :=
  ⟨h.cwd, fun k' hk => by rw [h.entryAt k', if_neg (fun c => hk c.2.1)]⟩

/-- Where every nonempty prefix already held something, nothing changed. -/
theorem entryAt_eq (h : DirsMade d acc pre) (hd : ∀ k', k' <+: pre → k' ≠ [] → d.entryAt k' ≠ none)
    (k' : List String) : acc.entryAt k' = d.entryAt k' := by
  rw [h.entryAt k']
  split
  · rename_i hc
    exact absurd hc.2.2 (hd k' hc.2.1 hc.1)
  · rfl

/-- One more step keeps the invariant one prefix further along, or fails at a file there. -/
theorem step {k : List String} {i : Nat} (h : DirsMade d acc (k.take i)) (hi : i < k.length) :
    match mkdirStep k acc i with
    | .ok acc' => DirsMade d acc' (k.take (i + 1))
    | .error _ => ∃ b, d.entryAt (k.take (i + 1)) = some (.file b) := by
  have hsplit : k.take (i + 1) = k.take i ++ [k[i]] := (List.take_append_getElem hi).symm
  have hpref : ∀ k', k' <+: k.take (i + 1) ↔ k' = k.take (i + 1) ∨ k' <+: k.take i := by
    intro k'
    rw [hsplit, List.prefix_concat_iff]
  have hne : k.take (i + 1) ≠ [] := by
    simp [List.ne_nil_iff_length_pos]; omega
  have hnot : ¬ k.take (i + 1) <+: k.take i := fun hp => by
    have := hp.length_le
    simp [List.length_take] at this
    omega
  have hsame : acc.entryAt (k.take (i + 1)) = d.entryAt (k.take (i + 1)) := by
    rw [h.entryAt, if_neg (fun c => hnot c.2.1)]
  unfold mkdirStep
  simp only [hsame]
  cases hd : d.entryAt (k.take (i + 1)) with
  | some e =>
    cases e with
    | file b => exact ⟨b, rfl⟩
    | dir =>
      refine ⟨h.cwd, fun k' => ?_, fun k' hk' => ?_, h.wf⟩
      · rw [h.entryAt k']
        by_cases heq : k' = k.take (i + 1)
        · subst heq
          simp [hd, hnot]
        · simp [hpref k', heq]
      · rcases (hpref k').1 hk' with rfl | hk'
        · rw [hsame, hd]
        · exact h.dirs k' hk'
  | none =>
    refine ⟨h.cwd, fun k' => ?_, fun k' hk' => ?_, fun hwf => (h.wf hwf).setEntry _ _⟩
    · rw [entryAt_setEntry _ _ hne, h.entryAt k']
      by_cases heq : k' = k.take (i + 1)
      · subst heq
        simp [hd, hne]
      · simp [hpref k', heq]
    · rw [entryAt_setEntry _ _ hne]
      rcases (hpref k').1 hk' with rfl | hk'
      · simp
      · have hne' : k' ≠ k.take (i + 1) := fun e => hnot (e ▸ hk')
        rw [if_neg hne']
        exact h.dirs k' hk'

end DirsMade

theorem foldlM_mkdirStep (d : Disk) (k : List String) (n : Nat) (hn : n ≤ k.length) :
    match (List.range n).foldlM (mkdirStep k) d with
    | .ok acc => DirsMade d acc (k.take n)
    | .error _ => ∃ k' b, k' <+: k ∧ d.entryAt k' = some (.file b) := by
  induction n with
  | zero => exact DirsMade.nil d
  | succ n ih =>
    rw [List.range_succ, List.foldlM_append]
    have ih := ih (by omega)
    revert ih
    cases (List.range n).foldlM (mkdirStep k) d with
    | error e =>
      intro ih
      exact ih
    | ok acc =>
      intro ih
      have hrun : (Except.ok acc >>= fun b => [n].foldlM (mkdirStep k) b : Except String Disk) =
          mkdirStep k acc n := by
        simp only [List.foldlM_cons, List.foldlM_nil, bind_pure]
        rfl
      rw [hrun]
      have hstep := DirsMade.step ih (by omega)
      revert hstep
      cases mkdirStep k acc n with
      | error e =>
        intro ⟨b, hb⟩
        exact ⟨_, b, List.take_prefix _ _, hb⟩
      | ok acc' =>
        intro hstep
        exact hstep

/-- `createDirAll` either puts a directory at every missing prefix of its path, or fails at a
prefix that is a file. -/
theorem createDirAll_cases (d : Disk) (p : String) :
    match d.createDirAll p with
    | .ok d' => DirsMade d d' (d.locate p)
    | .error _ => ∃ k' b, k' <+: d.locate p ∧ d.entryAt k' = some (.file b) := by
  have h := foldlM_mkdirStep d (d.locate p) _ (Nat.le_refl _)
  rw [List.take_length] at h
  exact h

theorem createDirAll_inv {d d' : Disk} {p : String} (h : d.createDirAll p = .ok d') :
    DirsMade d d' (d.locate p) := by
  have hc := createDirAll_cases d p
  rw [h] at hc
  exact hc

theorem createDirAll_ok {d : Disk} {p : String}
    (h : ∀ k', k' <+: d.locate p → ∀ b, d.entryAt k' ≠ some (.file b)) :
    ∃ d', d.createDirAll p = .ok d' := by
  have hc := createDirAll_cases d p
  revert hc
  cases d.createDirAll p with
  | ok d' => exact fun _ => ⟨d', rfl⟩
  | error e =>
    intro ⟨k', b, hk', hb⟩
    exact absurd hb (h k' hk' b)

/-! ## Removing a directory -/

theorem removeDirAll_eq {d : Disk} {p : String} (h : d.entryAt (d.locate p) = some .dir) :
    d.removeDirAll p = .ok (d.prune (d.locate p)) := by
  simp [removeDirAll, h, prune]

theorem removeDirAll_inv {d d' : Disk} {p : String} (h : d.removeDirAll p = .ok d') :
    d.entryAt (d.locate p) = some .dir ∧ d' = d.prune (d.locate p) := by
  unfold removeDirAll at h
  cases hd : d.entryAt (d.locate p) with
  | none => simp [hd] at h
  | some e =>
    cases e with
    | file _ => simp [hd] at h
    | dir =>
      simp only [hd] at h
      exact ⟨rfl, (Except.ok.inj h).symm⟩

end LowRankTuner.Disk
