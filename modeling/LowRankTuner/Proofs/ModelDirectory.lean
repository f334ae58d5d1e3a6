import Mathlib
import LowRankTuner.Model.Files
import LowRankTuner.Proofs.DiskLaws
/-!
# Resolving a base model directory

`resolveBaseModel` on a name that is a directory checks that `config.json` and
`tokenizer.json` are files there, lists the weight shards, and reads and checks the
configuration, reporting as it goes.  `ReportM.Yields m r` says that `m` ends in `r` whatever
was reported before it, so that the outcome of a reporting computation can be stated apart
from its reports (`resolveBaseModel_dir_yields`).

The weights come from one of two places (`findWeightFiles_of_index`,
`findWeightFiles_of_scan`):

* with a `model.safetensors.index.json` file, the distinct string values of its `weight_map`
  (`mem_shardNames`), in strictly increasing order (`shardNames_pairwise`);
* without one, every entry of the directory whose extension is `safetensors`, file or
  directory, in name order (`mem_listDir`, `listDir_pairwise`), each once on a well-formed disk.

`resolveBaseModel_local_dir` gathers what follows: a missing `config.json` or
`tokenizer.json`, or no weights at all, is an environment failure that carries the install
hint, and the model resolves exactly when the files are there, some weights are listed and
the configuration reads and checks.  Nothing looks the shards of an index up: a directory
whose index names a shard it does not hold resolves all the same
(`resolveBaseModel_keeps_absent_shard`), and only loading its weights fails later.
-/

namespace LowRankTuner

open Disk

/-! ## Outcomes of reporting computations -/

namespace ReportM

variable {α β : Type}

/-- `m` ends in `r` whatever events were reported before it. -/
def Yields (m : ReportM α) (r : Except Failure α) : Prop := ∀ s, (m.run.run s).1 = r

theorem Yields.result {m : ReportM α} {r : Except Failure α} (h : m.Yields r) : m.result = r :=
  h #[]

theorem yields_pure (a : α) : (pure a : ReportM α).Yields (.ok a) := fun _ => rfl

theorem yields_throw (e : Failure) : (throw e : ReportM α).Yields (.error e) := fun _ => rfl

theorem yields_lift (r : Except Failure α) : (lift r).Yields r := fun _ => by cases r <;> rfl

theorem yields_note (l : Level) (t m : String) : (note l t m).Yields (.ok ()) := fun _ => rfl

/-- A step that returns `a`, then the rest run on `a`. -/
theorem Yields.bind {x : ReportM β} {f : β → ReportM α} {a : β} {r : Except Failure α}
    (hx : x.Yields (.ok a)) (hf : (f a).Yields r) : (x >>= f).Yields r := by
  intro s
  have h := hx s
  rw [ExceptT.run_bind, StateT.run_bind]
  rcases hxs : x.run.run s with ⟨v, s'⟩
  rw [hxs] at h
  cases h
  exact hf s'

/-- A step that fails stops the computation with its failure. -/
theorem Yields.bind_error {x : ReportM β} {f : β → ReportM α} {e : Failure}
    (hx : x.Yields (.error e)) : (x >>= f).Yields (.error e) := by
  intro s
  have h := hx s
  rw [ExceptT.run_bind, StateT.run_bind]
  rcases hxs : x.run.run s with ⟨v, s'⟩
  rw [hxs] at h
  cases h
  rfl

/-- A lifted outcome followed by the rest: the outcome's failure, or the rest on its value. -/
theorem Yields.lift_bind {r : Except Failure β} {f : β → ReportM α} {g : β → Except Failure α}
    (hf : ∀ a, (f a).Yields (g a)) : (lift r >>= f).Yields (r.bind g) := by
  cases r with
  | error e => exact (yields_lift _).bind_error
  | ok a => exact (yields_lift _).bind (hf a)

end ReportM

/-! ## The shards an index names -/

/-- A sorted list with each run of equal names kept once: the head is kept, the order becomes
strict, and no name is lost. -/
theorem collapse_sorted : ∀ (l : List String), l.Pairwise (· ≤ ·) →
    let c := l.foldr (fun n acc => if acc.head? == some n then acc else n :: acc) []
    c.head? = l.head? ∧ c.Pairwise (· < ·) ∧ ∀ x, x ∈ c ↔ x ∈ l
  | [], _ => by simp
  | a :: l, hl => by
    obtain ⟨hhead, hlt, hmem⟩ := collapse_sorted l (List.pairwise_cons.1 hl).2
    have hle : ∀ y ∈ l, a ≤ y := (List.pairwise_cons.1 hl).1
    simp only [List.foldr_cons]
    set c := l.foldr (fun n acc => if acc.head? == some n then acc else n :: acc) []
    split
    · -- `a` heads the rest already: it is dropped here and kept there
      rename_i hca
      have hc : c.head? = some a := by simpa using hca
      refine ⟨by rw [hc]; rfl, hlt, fun x => ?_⟩
      rw [hmem, List.mem_cons]
      constructor
      · exact Or.inr
      · rintro (rfl | hx)
        · rw [hhead] at hc
          exact List.mem_of_mem_head? hc
        · exact hx
    · rename_i hca
      refine ⟨rfl, List.pairwise_cons.2 ⟨fun y hy => ?_, hlt⟩, fun x => by simp [hmem]⟩
      -- every later name is at least `a`, and the least of them, the head, is not `a`
      have hy' := (hmem y).1 hy
      refine lt_of_le_of_ne (hle y hy') fun hay => hca ?_
      subst hay
      obtain ⟨b, l', rfl⟩ := List.exists_cons_of_ne_nil (List.ne_nil_of_mem hy')
      have hba : b ≤ a := by
        rcases List.mem_cons.1 hy' with rfl | hy''
        · exact le_rfl
        · exact (List.pairwise_cons.1 (List.pairwise_cons.1 hl).2).1 a hy''
      have hab : b = a := le_antisymm hba (hle b List.mem_cons_self)
      simp [hhead, hab]

/-- The string values of the `weight_map` of an index document, the last value of each key. -/
def IndexNames (text n : String) : Prop :=
  ∃ fs m k, Json.parse text = .ok (.obj fs) ∧ (lastValues fs).lookup "weight_map" = some (.obj m) ∧
    (k, .str n) ∈ lastValues m

theorem pairwise_mergeSort_le (l : List String) :
    (l.mergeSort fun a b => a ≤ b).Pairwise (· ≤ ·) := by
  have h := @List.pairwise_mergeSort String (fun a b => decide (a ≤ b))
    (fun a b c hab hbc => by simp only [decide_eq_true_eq] at *; exact le_trans hab hbc)
    (fun a b => by simpa using le_total a b) l
  exact h.imp fun hab => by simpa using hab

/-- The shards of an index are in strictly increasing order, so each is listed once. -/
theorem shardNames_pairwise (text : String) : (shardNames text).Pairwise (· < ·) := by
  unfold shardNames
  split
  · split
    · exact (collapse_sorted _ (pairwise_mergeSort_le _)).2.1
    · exact List.Pairwise.nil
  · exact List.Pairwise.nil

/-- The shards of an index are the string values of its `weight_map`. -/
theorem mem_shardNames (text n : String) : n ∈ shardNames text ↔ IndexNames text n := by
  unfold shardNames IndexNames
  split
  · rename_i fs hparse
    split
    · rename_i m hmap
      rw [(collapse_sorted _ (pairwise_mergeSort_le _)).2.2, List.mem_mergeSort, List.mem_filterMap]
      constructor
      · rintro ⟨⟨k, v⟩, hkv, hv⟩
        cases v <;> simp [Json.str?] at hv
        subst hv
        exact ⟨fs, m, k, hparse, hmap, hkv⟩
      · rintro ⟨fs', m', k, hfs, hm, hkv⟩
        rw [hparse] at hfs
        cases hfs
        rw [hmap] at hm
        cases hm
        exact ⟨(k, .str n), hkv, rfl⟩
    · rename_i hmap
      simp only [List.not_mem_nil, false_iff]
      rintro ⟨fs', m', k, hfs, hm, -⟩
      rw [hparse] at hfs
      cases hfs
      exact hmap m' hm
  · rename_i hparse
    simp only [List.not_mem_nil, false_iff]
    rintro ⟨fs', m', k, hfs, -, -⟩
    exact hparse fs' hfs

/-! ## The entries of a directory -/

section Listing

variable {d : Disk} {p : String}

/-- The children of the directory at `p` among the disk's entries, by their last component. -/
abbrev children (d : Disk) (p : String) : List (String × Entry) :=
  d.entries.filterMap fun (k', e) =>
    if k'.length == (d.locate p).length + 1 && k'.take (d.locate p).length == d.locate p then
      k'.getLast?.map fun n => (n, e)
    else none

theorem listDir_of_dir (h : d.entryAt (d.locate p) = some .dir) :
    d.listDir p = .ok ((children d p).mergeSort fun a b => a.1 ≤ b.1) := by
  unfold listDir
  simp only [h]

/-- A listing that succeeds is of a directory, and holds its children in name order. -/
theorem listDir_eq_ok {es : List (String × Entry)} (h : d.listDir p = .ok es) :
    es = (children d p).mergeSort fun a b => a.1 ≤ b.1 := by
  unfold listDir at h
  dsimp only at h
  split at h
  · exact (Except.ok.inj h).symm
  · cases h
  · cases h

/-- A location is selected as a child of `base` named `n` when it is `base` followed by `n`. -/
theorem select_child_eq_some {base k : List String} {e e' : Entry} {n : String} :
    (if k.length == base.length + 1 && k.take base.length == base then
      k.getLast?.map fun m => (m, e) else none) = some (n, e') ↔ k = base ++ [n] ∧ e' = e := by
  constructor
  · intro hsel
    split at hsel
    · rename_i hk
      simp only [Bool.and_eq_true, beq_iff_eq] at hk
      obtain ⟨m, hm, hne⟩ := Option.map_eq_some_iff.1 hsel
      simp only [Prod.mk.injEq] at hne
      obtain ⟨rfl, rfl⟩ := hne
      -- a location one longer than `base` that starts with it ends in its last part
      obtain ⟨x, hx⟩ : ∃ x, k.drop base.length = [x] :=
        List.length_eq_one_iff.1 (by simp [hk.1])
      have hk' : k = base ++ [x] := by rw [← List.take_append_drop base.length k, hk.2, hx]
      subst hk'
      simp only [List.getLast?_append, List.getLast?_singleton, Option.some_or,
        Option.some.injEq] at hm
      exact ⟨by rw [hm], rfl⟩
    · cases hsel
  · rintro ⟨rfl, rfl⟩
    simp

/-- The entries a directory lists are the disk's entries one level below it, by their last
component. -/
theorem mem_listDir {es : List (String × Entry)} (h : d.listDir p = .ok es) (n : String)
    (e : Entry) : (n, e) ∈ es ↔ (d.locate p ++ [n], e) ∈ d.entries := by
  rw [listDir_eq_ok h, List.mem_mergeSort, List.mem_filterMap]
  constructor
  · rintro ⟨⟨k', e'⟩, hmem, hsel⟩
    obtain ⟨rfl, rfl⟩ := select_child_eq_some.1 hsel
    exact hmem
  · intro hmem
    exact ⟨(d.locate p ++ [n], e), hmem, select_child_eq_some.2 ⟨rfl, rfl⟩⟩

/-- A directory lists its entries in name order. -/
theorem listDir_pairwise {es : List (String × Entry)} (h : d.listDir p = .ok es) :
    (es.map (·.1)).Pairwise (· ≤ ·) := by
  rw [listDir_eq_ok h, List.pairwise_map]
  have hs := @List.pairwise_mergeSort (String × Entry) (fun a b => decide (a.1 ≤ b.1))
    (fun a b c hab hbc => by simp only [decide_eq_true_eq] at *; exact le_trans hab hbc)
    (fun a b => by simpa using le_total a.1 b.1) (children d p)
  exact hs.imp fun hab => by simpa using hab

/-- On a well-formed disk a directory lists each name once. -/
theorem Disk.WellFormed.nodup_listDir (hwf : d.WellFormed) {es : List (String × Entry)}
    (h : d.listDir p = .ok es) : (es.map (·.1)).Nodup := by
  have hes : es.Nodup := by
    rw [listDir_eq_ok h]
    refine (List.mergeSort_perm _ _).nodup_iff.2 (List.Nodup.filterMap ?_ hwf.keys.of_map)
    -- a selected child determines its location and its entry
    rintro ⟨k₁, e₁⟩ ⟨k₂, e₂⟩ ⟨n, e⟩ h₁ h₂
    obtain ⟨rfl, rfl⟩ := select_child_eq_some.1 h₁
    obtain ⟨rfl, rfl⟩ := select_child_eq_some.1 h₂
    rfl
  refine hes.map_on fun x hx y hy hxy => ?_
  -- two listed entries of one name sit at one location, which holds one entry
  have hx' := (mem_listDir h x.1 x.2).1 hx
  have hy' := (mem_listDir h y.1 y.2).1 hy
  rw [hxy] at hx'
  have := hwf.eq_of_mem hx' hy' rfl
  simp only [Prod.mk.injEq, true_and] at this
  exact Prod.ext hxy this

end Listing

/-! ## The weight shards of a directory -/

section Weights

variable {d : Disk} {dir : String}

/-- With an index file, the weights are the shards it names, in the directory, once the
index reads as JSON. -/
theorem findWeightFiles_of_index (hidx : d.isFile (join dir weightIndexFile) = true)
    {ws : List String} (h : findWeightFiles d dir = .ok ws) :
    ∃ text, d.readText (join dir weightIndexFile) = .ok text ∧ ws = (shardNames text).map (join dir ·) := by
  unfold findWeightFiles at h
  simp only [hidx, if_true] at h
  cases hr : d.readText (join dir weightIndexFile) with
  | error e => simp [hr, Except.mapError, bind, Except.bind] at h
  | ok text =>
    simp only [hr, Except.mapError, bind, Except.bind] at h
    split at h
    · cases h
    · cases h
      exact ⟨text, rfl, rfl⟩

/-- Without an index file, the weights are the directory's entries whose extension is
`safetensors`, in name order. -/
theorem findWeightFiles_of_scan (hidx : d.isFile (join dir weightIndexFile) = false)
    (hdir : d.isDir dir = true) :
    ∃ es, d.listDir dir = .ok es ∧ findWeightFiles d dir =
      .ok ((es.filter fun (n, _) => extension? n == some "safetensors").map fun (n, _) => join dir n) := by
  have hat : d.entryAt (d.locate dir) = some .dir := by
    unfold isDir entry? at hdir
    split at hdir
    · assumption
    · cases hdir
  refine ⟨_, listDir_of_dir hat, ?_⟩
  unfold findWeightFiles
  simp only [hidx, Bool.false_eq_true, if_false, listDir_of_dir hat, Except.mapError, bind,
    Except.bind, pure, Except.pure]

end Weights

/-! ## Resolving a directory -/

section Resolve

variable {d : Disk} {hub : HubFetch} {name : String}

/-- The files of `config.json` and `tokenizer.json` that a model directory lacks. -/
abbrev missingFiles (d : Disk) (dir : String) : List String :=
  ["config.json", "tokenizer.json"].filter fun f => !d.isFile (join dir f)

/-- **Resolving a directory, its reports left aside.**  A name that is a directory is the
model's directory; its missing files, then its weights, then its configuration are checked,
and the first check that fails gives the outcome. -/
theorem resolveBaseModel_dir_yields (hdir : d.isDir name = true) :
    (resolveBaseModel d hub name).Yields
      (if missingFiles d name ≠ [] then
        .error (.environment ("Base model directory " ++ name ++ " is missing " ++
          ", ".intercalate (missingFiles d name)) (installHint name))
      else (findWeightFiles d name).bind fun ws =>
        if ws = [] then
          .error (.environment ("No .safetensors weights found in " ++ name) (installHint name))
        else (ModelConfig.fromFile d (join name "config.json")).bind fun c =>
          .ok { name, dir := name, config := c, weightFiles := ws }) := by
  simp only [resolveBaseModel, hdir, if_true, pure_bind]
  by_cases hmiss : missingFiles d name = []
  · rw [if_neg (by simp [hmiss]), if_neg (by simpa using hmiss)]
    refine ReportM.Yields.lift_bind fun ws => ?_
    by_cases hws : ws = []
    · rw [if_pos (by simp [hws]), if_pos hws]
      exact (ReportM.yields_throw _).bind_error
    · rw [if_neg (by simpa using hws), if_neg hws]
      exact ReportM.Yields.lift_bind fun c =>
        (ReportM.yields_note _ _ _).bind (ReportM.yields_pure _)
  · rw [if_pos (by simpa using hmiss), if_pos hmiss]
    exact (ReportM.yields_throw _).bind_error

/-- What resolving a base model named by a local directory gives. -/
structure LocalResolution (d : Disk) (hub : HubFetch) (name : String) : Prop where
  /-- A missing `config.json` or `tokenizer.json` is an environment failure that names it and
  carries the install hint. -/
  missing : ∀ f ∈ ["config.json", "tokenizer.json"], d.isFile (join name f) = false →
    ∃ absent, f ∈ absent ∧ (resolveBaseModel d hub name).result =
      .error (.environment ("Base model directory " ++ name ++ " is missing " ++
        ", ".intercalate absent) (installHint name))
  /-- A directory without weights is an environment failure that carries the install hint. -/
  noWeights : d.isFile (join name "config.json") = true →
    d.isFile (join name "tokenizer.json") = true → findWeightFiles d name = .ok [] →
    (resolveBaseModel d hub name).result =
      .error (.environment ("No .safetensors weights found in " ++ name) (installHint name))
  /-- The model resolves exactly when both files are there, some weights are listed and the
  configuration reads and checks. -/
  ok_iff : ∀ files, (resolveBaseModel d hub name).result = .ok files ↔
    d.isFile (join name "config.json") = true ∧ d.isFile (join name "tokenizer.json") = true ∧
    findWeightFiles d name = .ok files.weightFiles ∧ files.weightFiles ≠ [] ∧
    ModelConfig.fromFile d (join name "config.json") = .ok files.config ∧
    files.name = name ∧ files.dir = name
  /-- With an index, the weights are its shards in the directory: the distinct string values
  of its `weight_map`, in increasing order, whether or not the disk holds them. -/
  indexed : d.isFile (join name weightIndexFile) = true → ∀ files,
    (resolveBaseModel d hub name).result = .ok files →
    ∃ (text : String) (shards : List String), d.readText (join name weightIndexFile) = .ok text ∧
      files.weightFiles = shards.map (join name ·) ∧ shards.Pairwise (· < ·) ∧
      ∀ n, n ∈ shards ↔ IndexNames text n
  /-- Without one, the weights are the directory's entries whose extension is `safetensors`,
  files or directories, in name order, each once on a well-formed disk. -/
  scanned : d.isFile (join name weightIndexFile) = false → ∀ files,
    (resolveBaseModel d hub name).result = .ok files →
    ∃ names : List String, files.weightFiles = names.map (join name ·) ∧ names.Pairwise (· ≤ ·) ∧
      (d.WellFormed → names.Nodup) ∧
      ∀ n, n ∈ names ↔ extension? n = some "safetensors" ∧ ∃ e, (d.locate name ++ [n], e) ∈ d.entries

/-- Both files are there exactly when none is missing. -/
theorem missingFiles_eq_nil_iff :
    missingFiles d name = [] ↔
      d.isFile (join name "config.json") = true ∧ d.isFile (join name "tokenizer.json") = true := by
  simp [missingFiles, List.filter_cons]
  split <;> split <;> simp_all

/-- The shards of a resolved model without an index: its `*.safetensors` entries. -/
theorem scanned_weights {es : List (String × Entry)} (hl : d.listDir name = .ok es) :
    let names := (es.filter fun (n, _) => extension? n == some "safetensors").map (·.1)
    ((es.filter fun (n, _) => extension? n == some "safetensors").map fun (n, _) => join name n) =
      names.map (join name ·) ∧ names.Pairwise (· ≤ ·) ∧ (d.WellFormed → names.Nodup) ∧
      ∀ n, n ∈ names ↔ extension? n = some "safetensors" ∧ ∃ e, (d.locate name ++ [n], e) ∈ d.entries := by
  intro names
  have hsub : names.Sublist (es.map (·.1)) := (List.filter_sublist).map _
  refine ⟨by simp [names], (listDir_pairwise hl).sublist hsub,
    fun hwf => (hwf.nodup_listDir hl).sublist hsub, fun n => ?_⟩
  simp only [names, List.mem_map, List.mem_filter, beq_iff_eq]
  constructor
  · rintro ⟨⟨m, e⟩, ⟨hmem, hext⟩, rfl⟩
    exact ⟨hext, e, (mem_listDir hl m e).1 hmem⟩
  · rintro ⟨hext, e, hmem⟩
    exact ⟨(n, e), ⟨(mem_listDir hl n e).2 hmem, hext⟩, rfl⟩

/-- A local directory resolves exactly when both files are there, some weights are listed and
the configuration reads and checks. -/
theorem resolveBaseModel_ok_iff (hdir : d.isDir name = true) (files : BaseModelFiles) :
    (resolveBaseModel d hub name).result = .ok files ↔
      d.isFile (join name "config.json") = true ∧ d.isFile (join name "tokenizer.json") = true ∧
      findWeightFiles d name = .ok files.weightFiles ∧ files.weightFiles ≠ [] ∧
      ModelConfig.fromFile d (join name "config.json") = .ok files.config ∧
      files.name = name ∧ files.dir = name := by
  rw [(show (resolveBaseModel d hub name).Yields _ from resolveBaseModel_dir_yields hdir).result]
  by_cases hmiss : missingFiles d name = []
  · obtain ⟨hcfg, htok⟩ := missingFiles_eq_nil_iff.1 hmiss
    rw [if_neg (by simpa using hmiss)]
    simp only [hcfg, htok, true_and]
    cases hw : findWeightFiles d name with
    | error e => simp [Except.bind]
    | ok ws =>
      by_cases hws : ws = []
      · subst hws
        simp only [Except.bind, if_true, reduceCtorEq, false_iff, not_and]
        intro hw' hne
        exact absurd (Except.ok.inj hw').symm hne
      · cases hc : ModelConfig.fromFile d (join name "config.json") with
        | error e => simp [hws, Except.bind]
        | ok c =>
          obtain ⟨n', dir', c', ws'⟩ := files
          simp only [Except.bind, hws, if_false, Except.ok.injEq, BaseModelFiles.mk.injEq]
          constructor
          · rintro ⟨rfl, rfl, rfl, rfl⟩
            exact ⟨rfl, hws, rfl, rfl, rfl⟩
          · rintro ⟨hw', -, hc', rfl, rfl⟩
            cases hw'
            cases hc'
            exact ⟨rfl, rfl, rfl, rfl⟩
  · rw [if_pos hmiss]
    simp only [reduceCtorEq, false_iff]
    rintro ⟨hcfg, htok, -⟩
    exact hmiss (missingFiles_eq_nil_iff.2 ⟨hcfg, htok⟩)

/-- **Resolving a local directory.**  A missing `config.json` or `tokenizer.json`, or no
weights, is an environment failure with the install hint; the model resolves exactly when
both files are there, some weights are listed and the configuration reads and checks; and the
weights are the shards the index names, or else the directory's `*.safetensors` entries. -/
theorem resolveBaseModel_local_dir (hdir : d.isDir name = true) : LocalResolution d hub name := by
  have hy := (show (resolveBaseModel d hub name).Yields _ from resolveBaseModel_dir_yields hdir).result
  have hok := @resolveBaseModel_ok_iff d hub name hdir
  refine ⟨fun f hf hfile => ?_, fun hc ht hw => ?_, hok, fun hidx files hres => ?_,
    fun hidx files hres => ?_⟩
  · -- the missing file is among those the failure names
    have hin : f ∈ missingFiles d name := List.mem_filter.2 ⟨hf, by simp [hfile]⟩
    refine ⟨missingFiles d name, hin, ?_⟩
    rw [hy, if_pos (List.ne_nil_of_mem hin)]
  · rw [hy, if_neg (by simp [missingFiles_eq_nil_iff.2 ⟨hc, ht⟩]), hw]
    rfl
  · obtain ⟨-, -, hw, -⟩ := (hok files).1 hres
    obtain ⟨text, hread, hws⟩ := findWeightFiles_of_index hidx hw
    exact ⟨text, shardNames text, hread, hws, shardNames_pairwise text,
      fun n => mem_shardNames text n⟩
  · obtain ⟨-, -, hw, -⟩ := (hok files).1 hres
    obtain ⟨es, hl, hw'⟩ := findWeightFiles_of_scan hidx hdir
    rw [hw'] at hw
    obtain ⟨heq, hrest⟩ := scanned_weights hl
    exact ⟨_, (Except.ok.inj hw).symm.trans heq, hrest⟩

/-- A directory whose index names a shard it does not hold resolves with that shard among its
weights. -/
theorem resolveBaseModel_keeps_absent_shard :
    let config := "\x7b\"vocab_size\": 8, \"hidden_size\": 4, \"intermediate_size\": 8, " ++
      "\"num_hidden_layers\": 1, \"num_attention_heads\": 2\x7d"
    let index := "\x7b\"weight_map\": \x7b\"a\": \"absent.safetensors\"\x7d\x7d"
    let d : Disk := ⟨[(["model"], .dir), (["model", "config.json"], .file config.toUTF8),
      (["model", "tokenizer.json"], .file "\x7b\x7d".toUTF8),
      (["model", "model.safetensors.index.json"], .file index.toUTF8)], []⟩
    let hub : HubFetch := fun _ _ => .error "offline"
    d.isDir "model" = true ∧ LocalResolution d hub "model" ∧
      (resolveBaseModel d hub "model").result.toOption.map (·.weightFiles) =
        some ["model/absent.safetensors"] ∧
      d.exists? "model/absent.safetensors" = false := by
  intro config index d hub
  have hdir : d.isDir "model" = true := by decide +kernel
  exact ⟨hdir, resolveBaseModel_local_dir hdir, by decide +kernel, by decide +kernel⟩

end Resolve

end LowRankTuner
