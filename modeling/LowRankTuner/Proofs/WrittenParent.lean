import LowRankTuner.Proofs.TrainingFootprint
import LowRankTuner.Cli.TrainArgs
/-!
# The parent of a path as it is written

`parentAsWritten` keeps the text of a path before its last part that names something, its
trailing separators and `.` parts taken off.  The location of the path is then the location of
that parent entered by one more part (`Disk.resolve_parentAsWritten`): the text before the last
part is the earlier parts, each with its separator (`Disk.getLast?_filter_starts`), and
trimming a tail of separators and `.` parts moves no location (`Disk.trimTail_spec`).

A run's output directory is the parent of its output file, so the output file is at most one
part below it, and never inside the checkpoint directory made there
(`Cli.TrainArgs.outputFile_not_below_checkpoints`).
-/
namespace LowRankTuner.Disk

/-- A trailing separator, or a trailing separator and `.`, adds no component. -/
theorem components_append_slash (l : List Char) {t : List Char} (ht : t = [] ∨ t = ['.']) :
    components (String.ofList (l ++ '/' :: t)) = components (String.ofList l) := by
  have hdot : ['.'].splitOn '/' = [['.']] := List.splitOn_eq_singleton (by decide)
  rcases ht with rfl | rfl <;>
    simp [components, segments, List.splitOn_append_cons_self, hdot]

/-- Trimming the tail of a path keeps its components and its first character. -/
theorem trimTail_spec : ∀ (fuel : Nat) (cs : List Char),
    components (String.ofList (trimTail fuel cs)) = components (String.ofList cs) ∧
      (trimTail fuel cs).head? = cs.head?
  | 0, _ => ⟨rfl, rfl⟩
  | fuel + 1, cs => by
    rw [trimTail]
    split
    · exact ⟨rfl, rfl⟩
    · rename_i rest hne hrev
      obtain rfl := List.reverse_eq_cons_iff.1 hrev
      obtain ⟨ih₁, ih₂⟩ := trimTail_spec fuel rest.reverse
      have hne' : rest.reverse ≠ [] := by simpa using hne
      exact ⟨ih₁.trans (components_append_slash _ (.inl rfl)).symm,
        ih₂.trans (List.head?_append_of_ne_nil _ hne').symm⟩
    · rename_i rest hrev
      obtain rfl := List.reverse_eq_cons_iff.1 hrev
      obtain ⟨ih₁, ih₂⟩ := trimTail_spec fuel ('/' :: rest).reverse
      rw [List.reverse_cons] at ih₁ ih₂ ⊢
      refine ⟨?_, ?_⟩
      · rw [ih₁, components_append_slash _ (.inl rfl), List.append_assoc, List.singleton_append,
          components_append_slash _ (.inr rfl)]
      · rw [ih₂]
        cases rest.reverse <;> rfl
    · exact ⟨rfl, rfl⟩

/-- The step `parentAsWritten` folds over the parts of a path: the start of the part is
recorded, and the length so far grows by the part and its separator. -/
def startStep (acc : List Nat × Nat) (seg : String) : List Nat × Nat :=
  (acc.1 ++ [acc.2], acc.2 + seg.length + 1)

theorem length_foldl_startStep (S : List String) (acc : List Nat) (n : Nat) :
    (S.foldl startStep (acc, n)).1.length = acc.length + S.length := by
  induction S generalizing acc n with
  | nil => rfl
  | cons s S ih =>
    rw [List.foldl_cons, startStep, ih]
    simp only [List.length_append, List.length_cons, List.length_nil]
    omega

theorem snd_foldl_startStep (S : List String) (acc : List Nat) (n : Nat) :
    (S.foldl startStep (acc, n)).2 = n + (S.flatMap fun s => s.toList ++ ['/']).length := by
  induction S generalizing acc n with
  | nil => rfl
  | cons s S ih =>
    rw [List.foldl_cons, startStep, ih]
    simp only [List.flatMap_cons, List.length_append, String.length_toList, List.length_singleton]
    omega

theorem foldl_startStep_concat (S : List String) (x : String) :
    (S ++ [x]).foldl startStep ([], 0) = startStep (S.foldl startStep ([], 0)) x := by
  rw [List.foldl_append, List.foldl_cons, List.foldl_nil]

/-- The parts of a path zipped with their starts, after one more part. -/
theorem zip_starts_concat (S : List String) (x : String) :
    (S ++ [x]).zip ((S ++ [x]).foldl startStep ([], 0)).1 =
      S.zip (S.foldl startStep ([], 0)).1 ++ [(x, (S.foldl startStep ([], 0)).2)] := by
  rw [foldl_startStep_concat, startStep]
  exact List.zip_append (by simp [length_foldl_startStep])

/-- The last part that `keep` selects splits the path's parts around it; its start is the
length of the parts before it, each with its separator. -/
theorem getLast?_filter_starts (keep : String → Bool) (S : List String) {seg : String}
    {start : Nat}
    (h : ((S.zip (S.foldl startStep ([], 0)).1).filter fun e => keep e.1).getLast? =
      some (seg, start)) :
    ∃ A T, S = A ++ seg :: T ∧ start = (A.flatMap fun s => s.toList ++ ['/']).length ∧
      keep seg = true ∧ ∀ t ∈ T, keep t = false := by
  induction S using List.reverseRecOn with
  | nil => simp at h
  | append_singleton S x ih =>
    rw [zip_starts_concat, List.filter_append] at h
    cases hx : keep x with
    | true =>
      rw [List.filter_singleton, hx, cond_true, List.getLast?_concat, Option.some.injEq,
        Prod.mk.injEq] at h
      obtain ⟨rfl, rfl⟩ := h
      exact ⟨S, [], rfl, by rw [snd_foldl_startStep, Nat.zero_add], hx, by simp⟩
    | false =>
      rw [List.filter_singleton, hx, cond_false, List.append_nil] at h
      obtain ⟨A, T, rfl, hstart, hseg, hT⟩ := ih h
      refine ⟨A, T ++ [x], by simp, hstart, hseg, fun t ht => ?_⟩
      rcases List.mem_append.1 ht with ht | ht
      · exact hT t ht
      · rw [List.mem_singleton.1 ht, hx]

/-- When `keep` selects no part, it selects none of the path's parts. -/
theorem filter_starts_eq_nil (keep : String → Bool) (S : List String)
    (h : ((S.zip (S.foldl startStep ([], 0)).1).filter fun e => keep e.1).getLast? = none) :
    ∀ s ∈ S, keep s = false := by
  intro s hs
  have hfst : (S.zip (S.foldl startStep ([], 0)).1).map Prod.fst = S :=
    List.map_fst_zip (by simp [length_foldl_startStep])
  obtain ⟨e, he, rfl⟩ := List.mem_map.1 (hfst ▸ hs)
  have hnil := List.getLast?_eq_none_iff.1 h
  simpa using List.filter_eq_nil_iff.1 hnil e he

/-- Parts joined by separators: the parts before `x` each come with their separator. -/
theorem intercalate_append_cons (A T : List String) (x : String) :
    ['/'].intercalate ((A ++ x :: T).map String.toList) =
      A.flatMap (fun s => s.toList ++ ['/']) ++ ['/'].intercalate ((x :: T).map String.toList) := by
  induction A with
  | nil => rfl
  | cons a A ih =>
    obtain ⟨l, zs, hz⟩ := List.exists_cons_of_ne_nil
      (show (A ++ x :: T).map String.toList ≠ [] by simp)
    rw [List.cons_append, List.map_cons, hz, List.intercalate_cons_cons, ← hz, ih]
    simp

/-- Parts without a separator, each followed by one, split back into themselves and an
empty last part. -/
theorem segments_flatMap_slash (A : List String) (hA : ∀ a ∈ A, '/' ∉ a.toList) :
    segments (String.ofList (A.flatMap fun s => s.toList ++ ['/'])) = A ++ [""] := by
  induction A with
  | nil => simp [segments]
  | cons a A ih =>
    have ha : a.toList.splitOn '/' = [a.toList] := List.splitOn_eq_singleton (hA a (by simp))
    have hrest := ih fun b hb => hA b (List.mem_cons_of_mem a hb)
    simp only [segments, String.toList_ofList] at hrest ⊢
    rw [List.flatMap_cons, List.append_assoc, List.singleton_append, List.splitOn_append_cons_self,
      ha, List.map_append, hrest]
    simp

theorem resolve_dot (cwd : List String) : resolve cwd "." = cwd := by
  have hdot : ['.'].splitOn '/' = [['.']] := List.splitOn_eq_singleton (by decide)
  simp [resolve_eq_foldl, segments, isAbsolute_eq_head, hdot, enter]

section Parts

variable {p : String} {A T : List String} {x : String}

/-- The text of a path whose parts are those of `A`, then `x`, then those of `T`. -/
theorem toList_of_segments (hS : segments p = A ++ x :: T) :
    p.toList = (A.flatMap fun s => s.toList ++ ['/']) ++
      ['/'].intercalate ((x :: T).map String.toList) := by
  have hsplit : p.toList.splitOn '/' = (segments p).map String.toList := by
    simp [segments, List.map_map, Function.comp_def]
  calc p.toList = ['/'].intercalate (p.toList.splitOn '/') := (List.intercalate_splitOn '/').symm
    _ = _ := by rw [hsplit, hS, intercalate_append_cons]

/-- The components of a path whose last part that names something is `x`. -/
theorem components_of_last (hS : segments p = A ++ x :: T) (hx : (x != "" && x != ".") = true)
    (hT : ∀ t ∈ T, (t != "" && t != ".") = false) :
    components p = (A.filter fun c => c != "" && c != ".") ++ [x] := by
  have hTnil : T.filter (fun c => c != "" && c != ".") = [] :=
    List.filter_eq_nil_iff.2 fun t ht => by simp [hT t ht]
  rw [components, hS, List.filter_append, List.filter_cons, hTnil]
  simp only [hx, if_true]

/-- A path whose first part is a nonempty name is relative. -/
theorem isAbsolute_of_segments (hS : segments p = x :: T) (hx : x ≠ "") : isAbsolute p = false := by
  have hx0 : x.toList ≠ [] := by rwa [ne_eq, String.toList_eq_nil_iff]
  obtain ⟨c, cs, hc⟩ := List.exists_cons_of_ne_nil hx0
  have hslash : c ≠ '/' := fun e =>
    slash_not_mem_of_mem_segments (hS ▸ List.mem_cons_self : x ∈ segments p) (by simp [hc, e])
  have hhead : p.toList.head? = x.toList.head? := by
    rw [toList_of_segments (A := []) hS, List.flatMap_nil, List.nil_append]
    cases T with
    | nil => rw [List.map_singleton, List.intercalate_singleton]
    | cons t T =>
      rw [List.map_cons, List.map_cons, List.intercalate_cons_cons, List.append_assoc,
        List.head?_append_of_ne_nil _ hx0]
  rw [isAbsolute_eq_head, hhead, hc]
  simpa using hslash

end Parts

/-- The parts before the last, each with its separator and the tail trimmed, are read back
as those parts. -/
theorem components_trimTail_flatMap {A : List String} (hA : ∀ a ∈ A, '/' ∉ a.toList) (fuel : Nat) :
    components (String.ofList (trimTail fuel (A.flatMap fun s => s.toList ++ ['/']))) =
      A.filter fun c => c != "" && c != "." := by
  rw [(trimTail_spec _ _).1, components, segments_flatMap_slash A hA]
  simp

/-- A nonempty start of a path's text, its tail trimmed, is a nonempty path that keeps the
path's first character, so it is absolute exactly when the path is. -/
theorem trimTail_prefix {p q : String} {X rest : List Char} {fuel : Nat}
    (hp : p.toList = X ++ rest) (hX : X ≠ []) (hq : q.toList = trimTail fuel X) :
    q.isEmpty = false ∧ isAbsolute q = isAbsolute p := by
  have hhead : q.toList.head? = p.toList.head? := by
    rw [hq, (trimTail_spec _ _).2, hp, List.head?_append_of_ne_nil _ hX]
  refine ⟨?_, by rw [isAbsolute_eq_head, isAbsolute_eq_head, hhead]⟩
  rw [Bool.eq_false_iff, ne_eq, String.isEmpty_iff, ← String.toList_eq_nil_iff]
  intro hnil
  rw [hnil, hp, List.head?_append_of_ne_nil _ hX] at hhead
  exact hX (List.head?_eq_none_iff.1 hhead.symm)

/-- **The location of a path is that of its written parent, entered by one more part**, the
empty parent being read as `.`. -/
theorem resolve_parentAsWritten (cwd : List String) {p q : String}
    (h : parentAsWritten p = some q) :
    ∃ seg, resolve cwd p = enter (resolve cwd (if q.isEmpty then "." else q)) seg := by
  unfold parentAsWritten at h
  dsimp only at h
  split at h
  · rename_i seg start heq
    -- the parent is the text before `seg`: the parts of `A`, each with its separator
    obtain ⟨A, T, hS, hstart, hseg, hT⟩ :=
      getLast?_filter_starts (fun c => c != "" && c != ".") (segments p) heq
    have htext := toList_of_segments hS
    have hq : q.toList = trimTail (start + 1) (A.flatMap fun s => s.toList ++ ['/']) := by
      rw [← Option.some.inj h, String.toList_ofList, htext, List.take_left' hstart.symm]
    have hA : ∀ a ∈ A, '/' ∉ a.toList :=
      fun a ha => slash_not_mem_of_mem_segments (hS ▸ List.mem_append_left _ ha)
    refine ⟨seg, ?_⟩
    rw [resolve_eq_foldl_components cwd p, components_of_last hS hseg hT, List.foldl_concat]
    congr 1
    by_cases hA0 : A = []
    · -- a single relative part: its parent is written empty and read as `.`
      subst hA0
      have hq0 : q = "" := String.toList_eq_nil_iff.1 (by rw [hq]; rfl)
      have hrel : isAbsolute p = false := isAbsolute_of_segments hS fun h0 => by simp [h0] at hseg
      subst hq0
      simp [hrel, resolve_dot]
    · have hX : (A.flatMap fun s => s.toList ++ ['/']) ≠ [] := fun h =>
        hA0 (List.eq_nil_iff_forall_not_mem.2 fun a ha => by simpa using List.flatMap_eq_nil_iff.1 h a ha)
      obtain ⟨hq0, habs⟩ := trimTail_prefix htext hX hq
      have hcomp : components q = A.filter fun c => c != "" && c != "." := by
        rw [← String.ofList_toList (s := q), hq, components_trimTail_flatMap hA]
      rw [hq0, if_neg Bool.false_ne_true, resolve_eq_foldl_components, hcomp, habs]
  · -- no part names anything: the path is `.` written some way, and its parent is empty
    rename_i heq
    have hnone := filter_starts_eq_nil (fun c => c != "" && c != ".") (segments p) heq
    have hcomp : components p = [] := List.filter_eq_nil_iff.2 fun s hs => by simp [hnone s hs]
    split at h
    · rename_i hdot
      cases h
      have hrel : isAbsolute p = false := by
        rw [Bool.and_eq_true, Bool.not_eq_true'] at hdot
        exact hdot.2
      refine ⟨"", ?_⟩
      show resolve cwd p = enter (resolve cwd ".") ""
      rw [resolve_dot, enter_empty, resolve_eq_foldl_components, hcomp, hrel]
      rfl
    · cases h

theorem components_eq_nil_of_parentAsWritten {p : String} (h : parentAsWritten p = none) :
    components p = [] := by
  unfold parentAsWritten at h
  dsimp only at h
  split at h
  · cases h
  · rename_i heq
    have hnone := filter_starts_eq_nil (fun c => c != "" && c != ".") (segments p) heq
    exact List.filter_eq_nil_iff.2 fun s hs => by simp [hnone s hs]

theorem length_enter_le (acc : List String) (c : String) : (enter acc c).length ≤ acc.length + 1 := by
  unfold enter
  split
  · omega
  · split
    · rw [List.length_dropLast]
      omega
    · simp

end LowRankTuner.Disk

namespace LowRankTuner.Cli.TrainArgs

open Disk

/-- The output file is one part below the output directory, or above it. -/
theorem length_resolve_outputFile (a : TrainArgs) (cwd : List String) :
    (resolve cwd a.outputFile).length ≤ (resolve cwd a.outputDir).length + 1 := by
  unfold outputDir
  split
  · rename_i q hq
    obtain ⟨seg, h⟩ := resolve_parentAsWritten cwd hq
    rw [h]
    exact length_enter_le _ seg
  · rename_i hq
    rw [resolve_dot, resolve_eq_foldl_components, components_eq_nil_of_parentAsWritten hq]
    split <;> simp

/-- **The output file never lies in the checkpoint directory**, which is made inside the
output directory, so saving checkpoints cannot overwrite it. -/
theorem outputFile_not_below_checkpoints (a : TrainArgs) (cwd : List String) :
    ¬ Below (join a.outputDir "checkpoints") cwd (resolve cwd a.outputFile) := by
  rintro ⟨x, hx⟩
  have hname : IsName "checkpoints" := by
    unfold IsName
    decide
  have hlen := hx.length_le
  rw [resolve_join_name hname] at hlen
  have := length_resolve_outputFile a cwd
  simp only [List.append_assoc, List.length_append, List.length_cons, List.length_nil] at hlen
  omega

end LowRankTuner.Cli.TrainArgs
