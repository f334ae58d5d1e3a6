import Mathlib
import LowRankTuner.Time.Civil
import LowRankTuner.Proofs.RunFootprint
/-!
# Archiving a queue never overwrites

`archiveQueue` renames a queue file, in its own directory, to the first name of the form
`training_queue_archive_<stamp>.jsonl` or `training_queue_archive_<stamp>_<k>.jsonl` that the
disk does not hold.  The search tries one more name than the disk has entries: a disk of `n`
entries holds at most `n` of `n + 1` distinct locations, so one of the names tried is free
(`Disk.exists_entryAt_none`), and the search stops at the first free one
(`archivePath_first_free`).  The bound never cuts the search short, so the unbounded search
of the program stops at the same name.

The rename then moves the file there and changes no other location
(`Disk.rename_changes`), so that nothing already on the disk, an earlier archive in
particular, is replaced (`archiveQueue_moves_to_fresh_name`).
-/

namespace LowRankTuner

open Disk

/-! ## Archive names -/

/-- The suffix of the `k`-th archive name: none for `0`, else `_k`. -/
theorem archiveName_eq (stamp : String) (k : Nat) :
    archiveName stamp k =
      "training_queue_archive_" ++ stamp ++ (if k = 0 then "" else "_" ++ toString k) ++ ".jsonl" := by
  unfold archiveName
  by_cases hk : k = 0
  · rw [if_pos (by simp [hk]), if_pos hk]
  · rw [if_neg (by simp [hk]), if_neg hk]

/-- Distinct suffixes give distinct archive names. -/
theorem archiveName_injective (stamp : String) : Function.Injective (archiveName stamp) := by
  intro i j h
  rw [archiveName_eq, archiveName_eq] at h
  -- the fixed text before and after the suffix cancels
  have hsuf := congrArg String.toList h
  simp only [String.toList_append, List.append_assoc] at hsuf
  have hmid := List.append_cancel_right (List.append_cancel_left (List.append_cancel_left hsuf))
  by_cases hi : i = 0 <;> by_cases hj : j = 0
  · omega
  · simp [hi, hj] at hmid
  · simp [hi, hj] at hmid
  · simp only [hi, hj, if_false, String.toList_append, List.append_cancel_left_eq] at hmid
    exact Nat.repr_inj.mp (String.toList_inj.mp hmid)

/-- A stamp `YYYYmmdd_HHMMSS` holds digits and an underscore only. -/
theorem Moment.slash_not_mem_stamp (m : Moment) : '/' ∉ m.stamp.toList := by
  have hpad : ∀ w n, '/' ∉ (Moment.padded w n).toList := fun w n hm => by
    simp only [Moment.padded, String.toList_ofList, List.mem_append, List.mem_replicate] at hm
    rcases hm with ⟨-, h⟩ | h
    · exact absurd h (by decide)
    · simpa using Nat.isDigit_of_mem_toDigits (by decide) (by decide) h
  simp [Moment.stamp, String.toList_append, hpad]

/-! ## A free location among more locations than entries -/

/-- A location other than the root that holds an entry is the location of one of the disk's
entries. -/
theorem Disk.mem_keys_of_entryAt {d : Disk} {k : List String} (hk : k ≠ [])
    (h : d.entryAt k ≠ none) : k ∈ d.entries.map (·.1) := by
  rw [entryAt_of_ne_nil _ hk] at h
  obtain ⟨e, he⟩ := Option.ne_none_iff_exists'.1 h
  obtain ⟨x, hx, -⟩ := Option.map_eq_some_iff.1 he
  have hkx : x.1 = k := by simpa using List.find?_some hx
  exact List.mem_map.2 ⟨x, List.mem_of_find?_eq_some hx, hkx⟩

/-- **Pigeonhole.**  Of more distinct locations, none the root, than the disk has entries, one
holds nothing. -/
theorem Disk.exists_entryAt_none {d : Disk} {ks : List (List String)} (hnd : ks.Nodup)
    (hne : ∀ k ∈ ks, k ≠ []) (hlen : d.entries.length < ks.length) :
    ∃ k ∈ ks, d.entryAt k = none := by
  by_contra hall
  push Not at hall
  have hsub : ks ⊆ d.entries.map (·.1) := fun k hk => mem_keys_of_entryAt (hne k hk) (hall k hk)
  have hle := hnd.length_le_of_subset hsub
  rw [List.length_map] at hle
  omega

/-! ## The search for a free name -/

section Search

variable (d : Disk) (dir stamp : String)

/-- The path of the `k`-th archive name in `dir`. -/
abbrev archiveCandidate (k : Nat) : String := join dir (archiveName stamp k)

/-- The search from suffix `s` with `fuel` returns the name of suffix `s + j` for some
`j ≤ fuel`; every name before it is taken, and it is free unless the fuel ran out. -/
theorem freeArchivePath_spec : ∀ fuel s, ∃ j ≤ fuel,
    freeArchivePath d dir stamp fuel s = archiveCandidate dir stamp (s + j) ∧
    (∀ i < j, d.exists? (archiveCandidate dir stamp (s + i)) = true) ∧
    (j < fuel → d.exists? (archiveCandidate dir stamp (s + j)) = false)
  | 0, s => ⟨0, le_rfl, rfl, fun _ hi => absurd hi (Nat.not_lt_zero _), fun h => absurd h (by omega)⟩
  | fuel + 1, s => by
    unfold freeArchivePath
    dsimp only
    split
    · -- the name of suffix `s` is taken: the search goes on from `s + 1`
      rename_i htaken
      obtain ⟨j, hj, heq, hbefore, hfree⟩ := freeArchivePath_spec fuel (s + 1)
      refine ⟨j + 1, by omega, by rw [heq, Nat.add_right_comm, Nat.add_assoc], fun i hi => ?_,
        fun hlt => by simpa [Nat.add_assoc, Nat.add_comm 1 j] using hfree (by omega)⟩
      rcases i with _ | i
      · simpa using htaken
      · simpa [Nat.add_assoc, Nat.add_comm 1 i] using hbefore i (by omega)
    · rename_i hfree
      exact ⟨0, by omega, rfl, fun _ hi => absurd hi (Nat.not_lt_zero _),
        fun _ => by simpa using hfree⟩

end Search

/-- **The archive path is the first free archive name.**  With a stamp that holds no
separator, the names tried are distinct locations one level below the archive directory, so one
of the first `n + 1` is free on a disk of `n` entries, and the search stops at the first free
one. -/
theorem archivePath_first_free (d : Disk) (path : String) {stamp : String}
    (hstamp : '/' ∉ stamp.toList) :
    ∃ k ≤ d.entries.length, archivePath d path stamp = archiveCandidate (archiveDir path) stamp k ∧
      d.exists? (archiveCandidate (archiveDir path) stamp k) = false ∧
      ∀ i < k, d.exists? (archiveCandidate (archiveDir path) stamp i) = true := by
  set dir := archiveDir path
  have hloc : ∀ k, d.locate (archiveCandidate dir stamp k) = d.locate dir ++ [archiveName stamp k] :=
    fun k => locate_join_name (isName_archiveName hstamp k) d dir
  -- the first `n + 1` names are distinct locations, none the root
  obtain ⟨k, hk, hnone⟩ := @Disk.exists_entryAt_none d
    ((List.range (d.entries.length + 1)).map fun i => d.locate (archiveCandidate dir stamp i))
    (by
      refine List.Nodup.map (fun i j hij => archiveName_injective stamp ?_) List.nodup_range
      simpa [hloc] using hij)
    (by simp [hloc])
    (by simp)
  obtain ⟨i₀, hi₀, rfl⟩ := List.mem_map.1 hk
  have hfree₀ : d.exists? (archiveCandidate dir stamp i₀) = false := by
    simp [exists?, entry?, hnone]
  obtain ⟨j, hj, heq, hbefore, hlast⟩ := freeArchivePath_spec d dir stamp d.entries.length 0
  simp only [Nat.zero_add] at heq hbefore hlast
  refine ⟨j, hj, heq, ?_, hbefore⟩
  -- the search stops no later than the free name `i₀`
  have hj_le : j ≤ i₀ := by
    by_contra hgt
    have := hbefore i₀ (by omega)
    rw [hfree₀] at this
    cases this
  rcases Nat.lt_or_ge j d.entries.length with hlt | hge
  · exact hlast hlt
  · have : j = i₀ := by rw [List.mem_range] at hi₀; omega
    rw [this]
    exact hfree₀

/-! ## The rename -/

/-- **A rename moves one file.**  When it succeeds, the file at the source is at the target
instead, the source holds nothing unless it is the target, and every other location is as it
was. -/
theorem Disk.rename_changes {d d' : Disk} {src dst : String} (h : d.rename src dst = .ok d')
    (hdst : d.locate dst ≠ []) :
    ∃ b, d.entryAt (d.locate src) = some (.file b) ∧
      d'.entryAt (d.locate dst) = some (.file b) ∧
      (d.locate src ≠ d.locate dst → d'.entryAt (d.locate src) = none) ∧
      ChangesWithin d d' (fun k => k = d.locate src ∨ k = d.locate dst) := by
  unfold Disk.rename at h
  dsimp only at h
  split at h
  · rename_i b hb
    split at h
    · cases h
      have hsrc : d.locate src ≠ [] := fun he => by rw [he, entryAt_nil] at hb; cases hb
      -- the disk without the source, then with the target set
      have hat : ∀ k, ({ d with entries := d.entries.filter (·.1 != d.locate src) }.setEntry
          (d.locate dst) (.file b)).entryAt k =
          if k = d.locate dst then some (.file b)
          else if k = d.locate src then none else d.entryAt k := by
        intro k
        rw [entryAt_setEntry _ _ hdst]
        split
        · rfl
        · by_cases hk : k = []
          · subst hk
            simp [Ne.symm hsrc]
          · rw [entryAt_filter d (· != d.locate src) hk]
            by_cases hks : k = d.locate src <;> simp [hks]
      refine ⟨b, hb, by rw [hat, if_pos rfl], fun hne => by rw [hat, if_neg hne, if_pos rfl],
        ⟨rfl, fun k hk => ?_⟩⟩
      rw [not_or] at hk
      rw [hat, if_neg hk.2, if_neg hk.1]
    · cases h
  · cases h
  · cases h

/-- **Archiving a queue moves it to a fresh archive name and changes nothing else.**  When
archiving a queue file under the stamp of a moment succeeds, the path it returns is the first
archive name in the queue's directory that the disk did not hold, with a suffix no greater than
the disk's number of entries; the queue's contents are there now, its old location is empty,
and every other location of the disk, every earlier archive among them, is as it was. -/
theorem archiveQueue_moves_to_fresh_name {d d' : Disk} {path p : String} (m : Moment)
    (h : archiveQueue d path m.stamp = .ok (d', p)) :
    (∃ k ≤ d.entries.length, p = join (archiveDir path) (archiveName m.stamp k) ∧
      ∀ i < k, d.exists? (join (archiveDir path) (archiveName m.stamp i)) = true) ∧
    d.entryAt (d.locate p) = none ∧
    (∃ b, d.entryAt (d.locate path) = some (.file b) ∧ d'.entryAt (d.locate p) = some (.file b)) ∧
    d'.entryAt (d.locate path) = none ∧
    ChangesWithin d d' (fun k => k = d.locate path ∨ k = d.locate p) := by
  have hstamp := Moment.slash_not_mem_stamp m
  obtain ⟨k, hk, hpath, hfree, hbefore⟩ := archivePath_first_free d path hstamp
  unfold archiveQueue at h
  cases hr : d.rename path (archivePath d path m.stamp) with
  | error e => simp [hr, Except.mapError, bind, Except.bind] at h
  | ok d₁ =>
    simp only [hr, Except.mapError, bind, Except.bind, pure, Except.pure, Except.ok.injEq,
      Prod.mk.injEq] at h
    obtain ⟨rfl, rfl⟩ := h
    have hloc : d.locate (archivePath d path m.stamp) ≠ [] := by
      rw [hpath, locate_join_name (isName_archiveName hstamp k)]
      simp
    have hnone : d.entryAt (d.locate (archivePath d path m.stamp)) = none := by
      simpa [exists?, entry?, hpath] using hfree
    obtain ⟨b, hb, hmoved, hsrc, hchanges⟩ := rename_changes hr hloc
    -- the queue was a file and the target held nothing, so they are different locations
    have hne : d.locate path ≠ d.locate (archivePath d path m.stamp) := fun he => by
      rw [he, hnone] at hb
      cases hb
    exact ⟨⟨k, hk, hpath, hbefore⟩, hnone, ⟨b, hb, hmoved⟩, hsrc hne, hchanges⟩

/-- A queue archived at a moment whose first archive name is taken goes to the second. -/
theorem archiveQueue_skips_taken_name :
    let d₀ : Disk := ⟨[(["training_queue.jsonl"], .file ⟨#[1]⟩),
      (["training_queue_archive_20000229_000000.jsonl"], .file ⟨#[2]⟩)], []⟩
    let d₁ : Disk := ⟨[(["training_queue_archive_20000229_000000.jsonl"], .file ⟨#[2]⟩),
      (["training_queue_archive_20000229_000000_1.jsonl"], .file ⟨#[1]⟩)], []⟩
    let m : Moment := ⟨2000, 2, 29, 0, 0, 0⟩
    let p := "training_queue_archive_20000229_000000_1.jsonl"
    archiveQueue d₀ "training_queue.jsonl" m.stamp = .ok (d₁, p) ∧
    (∃ k ≤ d₀.entries.length, p = join (archiveDir "training_queue.jsonl") (archiveName m.stamp k) ∧
      ∀ i < k, d₀.exists? (join (archiveDir "training_queue.jsonl") (archiveName m.stamp i)) = true) ∧
    d₀.entryAt (d₀.locate p) = none ∧
    (∃ b, d₀.entryAt (d₀.locate "training_queue.jsonl") = some (.file b) ∧
      d₁.entryAt (d₀.locate p) = some (.file b)) ∧
    d₁.entryAt (d₀.locate "training_queue.jsonl") = none ∧
    ChangesWithin d₀ d₁ (fun k => k = d₀.locate "training_queue.jsonl" ∨ k = d₀.locate p) := by
  intro d₀ d₁ m p
  have hpath : archivePath d₀ "training_queue.jsonl" m.stamp = p := by decide +kernel
  have hsrc : d₀.locate "training_queue.jsonl" = ["training_queue.jsonl"] := by decide +kernel
  have hdst : d₀.locate p = [p] := by decide +kernel
  have hr : d₀.rename "training_queue.jsonl" p = .ok d₁ := by
    unfold Disk.rename
    rw [hsrc, hdst]
    simp [Disk.entryAt, Disk.setEntry, d₀, d₁, p]
  have h : archiveQueue d₀ "training_queue.jsonl" m.stamp = .ok (d₁, p) := by
    unfold archiveQueue
    rw [hpath]
    simp [hr, Except.mapError, bind, Except.bind, pure, Except.pure]
  exact ⟨h, archiveQueue_moves_to_fresh_name m h⟩

end LowRankTuner
