import LintMark.Fingerprinter.Batch
import LintMark.Proofs.Fingerprinter.EntryPoints
import LintMark.Proofs.Java.Descent

/-!
# Batches and single warnings

A batch gives every warning what it gets on its own, and parses every file once
(`batch_eq_singles`). The two differ in one place: a refused source fails a single request, and in a
batch it leaves its warnings without a fingerprint (`inBatch`). A name that cannot be encoded fails
both, so a batch with such a warning has no results.

## The cache and the log

A batch remembers trees, and refused sources, by the texts of their paths, and a log is kept of
every file that is parsed. All that is ever asked of the two is that the cache holds what parsing
its files gives, and that its files are those of the log (`Recalls`). It says so of the empty cache
and the empty log. A file that the log has is not parsed again; a file that the log lacks is parsed,
and stands in both from then on. Files do not change during a batch.

So a run over warnings adds to the log each of their files that it lacks, once, in the order of
first occurrence (`run_batchFrom`). The log is there whether the run gets to the last warning or
only to the first one that fails (`reached`).
-/

namespace LintMark.Fingerprinter

open Java (isBareUpdate)

/-! ## Runs with a log -/

section

variable {ε σ α β : Type} {x : ExceptT ε (StateM σ) α} {k : α → ExceptT ε (StateM σ) β}
  {log log' : σ}

theorem run_mk_pure (r : Except ε α) (log : σ) :
    (ExceptT.mk (pure r) : ExceptT ε (StateM σ) α).run.run log = (r, log) := rfl

theorem run_bind_of_ok {a : α} (h : x.run.run log = (.ok a, log')) :
    (x >>= k).run.run log = (k a).run.run log' := by
  rw [ExceptT.run_bind, StateT.run_bind, h]
  rfl

theorem run_bind_of_error {e : ε} (h : x.run.run log = (.error e, log')) :
    (x >>= k).run.run log = (.error e, log') := by
  rw [ExceptT.run_bind, StateT.run_bind, h]
  rfl

end

/-- Enters a file into a log unless it is there. -/
def enter (log : List Text) (file : Text) : List Text :=
  if file ∈ log then log else log ++ [file]

/-- Several files add to a log those that it lacks, in the order of first occurrence. -/
theorem foldl_enter (files log : List Text) :
    files.foldl enter log = log ++ (files.filter (· ∉ log)).eraseDups := by
  induction files generalizing log with
  | nil => exact (List.append_nil log).symm
  | cons file files ih =>
    rw [List.foldl_cons, ih, enter]
    by_cases hfile : file ∈ log
    · rw [if_pos hfile, List.filter_cons_of_neg (by simpa using hfile)]
    · rw [if_neg hfile, List.filter_cons_of_pos (by simpa using hfile), List.eraseDups_cons,
        List.filter_filter, List.append_assoc, List.singleton_append]
      congr 3
      refine List.filter_congr fun other _ ↦ ?_
      rw [Bool.eq_iff_iff, decide_eq_true_iff, List.mem_append, List.mem_singleton,
        Bool.and_eq_true, decide_eq_true_iff, Bool.not_eq_true', beq_eq_false_iff_ne, not_or,
        and_comm]

theorem foldl_enter_nil (files : List Text) : files.foldl enter [] = files.eraseDups := by
  have hall : files.filter (· ∉ []) = files := List.filter_eq_self.2 fun file _ ↦ rfl
  rw [foldl_enter, hall, List.nil_append]

variable (fp : Fingerprinter) (ws : Workspace)

/-! ## What a warning gets -/

/-- What a warning gets in a batch. A refused source leaves it without a fingerprint, and every
other failure is one of the batch. -/
def inBatch (w : Warning) : Except Failure (Option Fingerprint) :=
  match fp.fingerprintWarning ws w with
  | .ok f => .ok (some f)
  | .error (.read (.source _)) => .ok none
  | .error e => .error e

/-- The warnings that a batch gets to: those up to the first one that fails. -/
def reached : List Warning → List Warning
  | [] => []
  | w :: rest =>
    match fp.inBatch ws w with
    | .ok _ => w :: reached rest
    | .error _ => [w]

/-- The tree of a file as a batch keeps it. A refused source is no failure but has no tree. -/
def keptTree (file : Text) : Except Failure (Option Tree) :=
  match fp.tree ws file with
  | .ok t => .ok (some t)
  | .error (.source _) => .ok none
  | .error e => .error (.read e)

variable {fp ws} {w : Warning} {cache : TreeCache} {log : List Text} {file : Text}

theorem inBatch_eq (w : Warning) :
    fp.inBatch ws w = fp.keptTree ws w.file >>= fp.fingerprintOn? w := by
  rw [inBatch, keptTree, fingerprintWarning]
  cases fp.tree ws w.file with
  | ok t =>
    dsimp only [Except.mapError, bind, Except.bind, fingerprintOn?]
    rw [fingerprintOn_eq]
    cases canonicalNamed t w.line w.settled w.contextName <;> rfl
  | error e => cases e <;> rfl

theorem fingerprintWarning_of_inBatch {f : Fingerprint} (h : fp.inBatch ws w = .ok (some f)) :
    fp.fingerprintWarning ws w = .ok f := by
  rw [inBatch] at h
  split at h
  · next hf => rw [hf, Option.some.inj (Except.ok.inj h)]
  · cases h
  · cases h

/-! ## The cache and the log -/

variable (fp ws) in
/-- The cache holds what parsing its files gives, and its files are those of the log. -/
structure Recalls (cache : TreeCache) (log : List Text) : Prop where
  /-- What the cache holds is what parsing gives. -/
  kept : ∀ file t, cache.lookup file = some t → fp.keptTree ws file = .ok t
  /-- The cache lacks the files that the log lacks. -/
  lookup_eq_none_iff : ∀ file, cache.lookup file = none ↔ file ∉ log

theorem recalls_nil : Recalls fp ws [] [] where
  kept _ _ h := nomatch h
  lookup_eq_none_iff _ := iff_of_true rfl List.not_mem_nil

/-- A file that has just been parsed is added to both. -/
theorem Recalls.cons (h : Recalls fp ws cache log) {t : Option Tree}
    (ht : fp.keptTree ws file = .ok t) : Recalls fp ws ((file, t) :: cache) (log ++ [file]) := by
  have hlookup : ∀ other, List.lookup other ((file, t) :: cache)
      = if other = file then some t else cache.lookup other := by
    intro other
    rw [List.lookup_cons]
    by_cases heq : other = file
    · rw [heq, beq_self_eq_true, if_pos rfl]
    · rw [beq_false_of_ne heq, if_neg heq]
  constructor
  · intro other u hother
    rw [hlookup] at hother
    split_ifs at hother with heq
    · rw [heq, ht, Option.some.inj hother]
    · exact h.kept other u hother
  · intro other
    rw [hlookup, List.mem_append, List.mem_singleton, not_or]
    split_ifs with heq
    · exact iff_of_false (fun h ↦ nomatch h) fun hno ↦ hno.2 heq
    · rw [h.lookup_eq_none_iff other]
      exact ⟨fun hother ↦ ⟨hother, heq⟩, And.left⟩

/-- **One step of a batch.** The tree of a file is the one that parsing it gives, whether the file
is met for the first time or again, and the file is in the log from then on. -/
theorem run_cachedTree (h : Recalls fp ws cache log) (file : Text) :
    ∃ next : Option Tree → TreeCache, (cachedTree (fp.loggedTree ws) cache file).run.run log
        = ((fp.keptTree ws file).map fun t ↦ (t, next t), enter log file) ∧
      ∀ t, fp.keptTree ws file = .ok t → Recalls fp ws (next t) (enter log file) := by
  cases hlookup : cache.lookup file with
  | some t =>
    have hmem : file ∈ log := by
      by_contra hmem
      rw [(h.lookup_eq_none_iff file).2 hmem] at hlookup
      cases hlookup
    rw [enter, if_pos hmem]
    refine ⟨fun _ ↦ cache, ?_, fun _ _ ↦ h⟩
    rw [cachedTree, hlookup, h.kept file t hlookup]
    rfl
  | none =>
    rw [enter, if_neg ((h.lookup_eq_none_iff file).1 hlookup)]
    refine ⟨fun t ↦ (file, t) :: cache, ?_, fun t ht ↦ h.cons ht⟩
    have hparse : ((ExceptT.lift (fp.loggedTree ws file) :
        ExceptT Failure (StateM (List Text)) _)).run.run log
          = (.ok (fp.tree ws file), log ++ [file]) := rfl
    rw [cachedTree, hlookup]
    refine (run_bind_of_ok hparse).trans ?_
    rw [keptTree]
    cases fp.tree ws file with
    | ok t => rfl
    | error e => cases e <;> rfl

/-! ## Runs -/

/-- **A run of a batch** gives the warnings what they get on their own, up to the first failure, and
enters the files of the warnings that it gets to. -/
theorem run_batchFrom (warnings : List Warning) {cache : TreeCache} {log : List Text}
    (h : Recalls fp ws cache log) :
    (fp.batchFrom (fp.loggedTree ws) cache warnings).run.run log
      = (warnings.mapM fun w ↦ (fp.inBatch ws w).map fun f ↦ (w, f),
        ((fp.reached ws warnings).map Warning.file).foldl enter log) := by
  induction warnings generalizing cache log with
  | nil => rfl
  | cons w rest ih =>
    obtain ⟨next, hstep, hnext⟩ := run_cachedTree h w.file
    have hgets : fp.inBatch ws w = _ := inBatch_eq w
    rw [batchFrom, List.mapM_cons, reached, hgets]
    cases hkept : fp.keptTree ws w.file with
    | error e =>
      rw [hkept] at hstep
      exact run_bind_of_error hstep
    | ok t =>
      rw [hkept] at hstep
      refine (run_bind_of_ok hstep).trans ?_
      have hon := run_mk_pure (fp.fingerprintOn? w t) (enter log w.file)
      have hbind : (Except.ok t >>= fp.fingerprintOn? w) = fp.fingerprintOn? w t := rfl
      rw [hbind]
      cases hf : fp.fingerprintOn? w t with
      | error e => exact run_bind_of_error (hon.trans (congrArg (·, _) hf))
      | ok f =>
        refine (run_bind_of_ok (hon.trans (congrArg (·, _) hf))).trans ?_
        have hrest := ih (hnext t hkept)
        rw [ExceptT.run_bind, StateT.run_bind, hrest]
        cases rest.mapM fun w ↦ (fp.inBatch ws w).map fun f ↦ (w, f) <;> rfl

/-- The log of a batch has the files of the warnings that it gets to, each of them once, in the
order of first occurrence. -/
theorem parsed_batch (fp : Fingerprinter) (ws : Workspace) (warnings : List Warning) :
    (fp.batch ws warnings).parsed
      = ((fp.reached ws warnings).map Warning.file).eraseDups := by
  rw [batch, run_batchFrom warnings recalls_nil, foldl_enter_nil]

/-- A batch gives the warnings what they get on their own. -/
theorem results_batch (fp : Fingerprinter) (ws : Workspace) (warnings : List Warning) :
    (fp.batch ws warnings).results
      = warnings.mapM fun w ↦ (fp.inBatch ws w).map fun f ↦ (w, f) := by
  rw [batch, run_batchFrom warnings recalls_nil]

/-! ## Up to the first failure -/

section

variable {ε α β : Type} {f : α → Except ε β}

theorem mapM_eq_ok_map {g : α → β} {xs : List α} (h : ∀ x ∈ xs, f x = .ok (g x)) :
    xs.mapM f = .ok (xs.map g) := by
  induction xs with
  | nil => rfl
  | cons x xs ih =>
    rw [List.mapM_cons, h x List.mem_cons_self, ih fun y hy ↦ h y (List.mem_cons_of_mem x hy)]
    rfl

theorem mapM_eq_error {front back : List α} {x : α} {e : ε}
    (hfront : ∀ y ∈ front, ∃ z, f y = .ok z) (hx : f x = .error e) :
    (front ++ x :: back).mapM f = .error e := by
  induction front with
  | nil => rw [List.nil_append, List.mapM_cons, hx]; rfl
  | cons y front ih =>
    obtain ⟨z, hz⟩ := hfront y List.mem_cons_self
    rw [List.cons_append, List.mapM_cons, hz, ih fun u hu ↦ hfront u (List.mem_cons_of_mem y hu)]
    rfl

end

theorem reached_eq_self {warnings : List Warning}
    (h : ∀ w ∈ warnings, ∃ f, fp.inBatch ws w = .ok f) : fp.reached ws warnings = warnings := by
  induction warnings with
  | nil => rfl
  | cons w rest ih =>
    obtain ⟨f, hf⟩ := h w List.mem_cons_self
    rw [reached, hf]
    exact congrArg (w :: ·) (ih fun v hv ↦ h v (List.mem_cons_of_mem w hv))

/-- A batch gets to the first warning that fails and no further. -/
theorem reached_append {front back : List Warning} {e : Failure}
    (hfront : ∀ v ∈ front, ∃ f, fp.inBatch ws v = .ok f) (hw : fp.inBatch ws w = .error e) :
    fp.reached ws (front ++ w :: back) = front ++ [w] := by
  induction front with
  | nil => rw [List.nil_append, reached, hw, List.nil_append]
  | cons v front ih =>
    obtain ⟨f, hf⟩ := hfront v List.mem_cons_self
    rw [List.cons_append, reached, hf]
    exact congrArg (v :: ·) (ih fun u hu ↦ hfront u (List.mem_cons_of_mem v hu))

/-! ## Names that cannot be encoded -/

variable (fp ws) in
/-- If the file of the warning has a tree, then UTF-8 can write the name of the warning. -/
def Encodes (w : Warning) : Prop :=
  ∀ t, fp.tree ws w.file = .ok t → ∀ name, w.contextName = some name → name.IsEncodable

theorem fingerprintOn_eq_error_iff {t : Tree} {e : Failure} :
    fp.fingerprintOn t w = .error e ↔
      ∃ e', canonicalNamed t w.line w.settled w.contextName = .error e' ∧ .encoding e' = e := by
  rw [fingerprintOn_eq]
  cases canonicalNamed t w.line w.settled w.contextName with
  | error e' => simp [Except.mapError, Except.map]
  | ok canonical => simp [Except.mapError, Except.map]

theorem exists_fingerprintOn_eq_ok (t : Tree)
    (hname : ∀ name, w.contextName = some name → name.IsEncodable) :
    ∃ f, fp.fingerprintOn t w = .ok f := by
  cases hf : fp.fingerprintOn t w with
  | ok f => exact ⟨f, rfl⟩
  | error e =>
    obtain ⟨e', he', -⟩ := fingerprintOn_eq_error_iff.1 hf
    obtain ⟨name, hname', hno⟩ := exists_canonicalNamed_eq_error_iff.1 ⟨e', he'⟩
    exact absurd (hname name hname') hno

theorem fingerprintWarning_of_tree {t : Tree} (ht : fp.tree ws w.file = .ok t) :
    fp.fingerprintWarning ws w = fp.fingerprintOn t w := by
  rw [fingerprintWarning, ht]
  rfl

/-- A warning on its own fails because of its file, or else because of its name. -/
theorem fingerprintWarning_eq_error_iff {e : Failure} :
    fp.fingerprintWarning ws w = .error e ↔
      (∃ e', fp.tree ws w.file = .error e' ∧ .read e' = e) ∨
        ∃ t, fp.tree ws w.file = .ok t ∧ fp.fingerprintOn t w = .error e := by
  rw [fingerprintWarning]
  cases fp.tree ws w.file with
  | error e' => simp [Except.mapError, bind, Except.bind]
  | ok t => simp [Except.mapError, bind, Except.bind]

/-- A warning fails because of its name exactly if the name cannot be encoded. -/
theorem not_encodes_iff :
    ¬ fp.Encodes ws w ↔ ∃ e, fp.fingerprintWarning ws w = .error (.encoding e) := by
  constructor
  · intro h
    simp only [Encodes, not_forall] at h
    obtain ⟨t, ht, name, hname, hno⟩ := h
    obtain ⟨e, he⟩ := exists_canonicalNamed_eq_error_iff.2 ⟨name, hname, hno⟩
    exact ⟨e, fingerprintWarning_eq_error_iff.2
      (.inr ⟨t, ht, fingerprintOn_eq_error_iff.2 ⟨e, he, rfl⟩⟩)⟩
  · rintro ⟨e, he⟩ h
    obtain ⟨e', -, he'⟩ | ⟨t, ht, he⟩ := fingerprintWarning_eq_error_iff.1 he
    · cases he'
    · obtain ⟨e', hnamed, -⟩ := fingerprintOn_eq_error_iff.1 he
      obtain ⟨name, hname, hno⟩ := exists_canonicalNamed_eq_error_iff.1 ⟨e', hnamed⟩
      exact hno (h t ht name hname)

/-- Where the grammar signs its updates and the path can be handed over, a warning gets something
in a batch if its name can be encoded: nothing exactly if its source is refused. -/
theorem inBatch_eq_ok (hgrammar : ws.grammar.SignsUpdates)
    (hpath : Path.fault? (fp.pathOf w.file) = none) (hname : fp.Encodes ws w) :
    fp.inBatch ws w = .ok (fp.fingerprintWarning ws w).toOption ∧
      ((fp.fingerprintWarning ws w).toOption = none
        ↔ ∃ e, fp.fingerprintWarning ws w = .error (.read (.source e))) := by
  rw [inBatch]
  cases hw : fp.fingerprintWarning ws w with
  | ok f => exact ⟨rfl, iff_of_false (fun h ↦ nomatch h) fun ⟨_, h⟩ ↦ nomatch h⟩
  | error e =>
    obtain ⟨e', htree, rfl⟩ | ⟨t, -, hon⟩ := fingerprintWarning_eq_error_iff.1 hw
    · obtain ⟨s, rfl⟩ := Files.exists_sourceError hgrammar ws.files hpath htree
      exact ⟨rfl, iff_of_true rfl ⟨s, rfl⟩⟩
    · obtain ⟨e', -, rfl⟩ := fingerprintOn_eq_error_iff.1 hon
      exact absurd hname (not_encodes_iff.2 ⟨e', hw⟩)

theorem inBatch_eq_error {e : EncodeError}
    (hw : fp.fingerprintWarning ws w = .error (.encoding e)) :
    fp.inBatch ws w = .error (.encoding e) := by
  rw [inBatch, hw]

theorem results_batch_of_encodes (hgrammar : ws.grammar.SignsUpdates) {warnings : List Warning}
    (hpaths : ∀ w ∈ warnings, Path.fault? (fp.pathOf w.file) = none)
    (hnames : ∀ w ∈ warnings, fp.Encodes ws w) :
    (fp.batch ws warnings).results
      = .ok (warnings.map fun w ↦ (w, (fp.fingerprintWarning ws w).toOption)) := by
  rw [results_batch]
  refine mapM_eq_ok_map fun w hw ↦ ?_
  rw [(inBatch_eq_ok hgrammar (hpaths w hw) (hnames w hw)).1]
  rfl

/-- The first warning whose name cannot be encoded fails a batch. -/
theorem results_batch_of_encoding (hgrammar : ws.grammar.SignsUpdates) {front back : List Warning}
    (hpaths : ∀ v ∈ front, Path.fault? (fp.pathOf v.file) = none)
    (hnames : ∀ v ∈ front, fp.Encodes ws v) {e : EncodeError}
    (he : fp.fingerprintWarning ws w = .error (.encoding e)) :
    (fp.batch ws (front ++ w :: back)).results = .error (.encoding e) := by
  rw [results_batch]
  refine mapM_eq_error (fun v hv ↦ ?_) ?_
  · exact ⟨_, congrArg (Except.map _) (inBatch_eq_ok hgrammar (hpaths v hv) (hnames v hv)).1⟩
  · rw [inBatch_eq_error he]
    rfl

/-! ## Main result -/

/-- **A batch is its single warnings.** Let the paths be such that files can be opened or not, and
let the grammar sign its updates. If the names of the warnings whose files have trees can be
encoded, then a batch gives one result for each warning, in order: none exactly if the source of the
warning is refused, and otherwise the fingerprint that it gets on its own. Every file is parsed
once, in the order of first occurrence, and the same warnings in another order get the same.
Otherwise the batch fails like the first warning whose name cannot be encoded, and until then it
parses every file once. -/
theorem batch_eq_singles (fp : Fingerprinter) (ws : Workspace)
    (hgrammar : ws.grammar.SignsUpdates) (warnings : List Warning)
    (hpaths : ∀ w ∈ warnings, Path.fault? (fp.pathOf w.file) = none) :
    ((∀ w ∈ warnings, fp.Encodes ws w) →
      ∃ results, (fp.batch ws warnings).results = .ok results ∧
        results = warnings.map (fun w ↦ (w, (fp.fingerprintWarning ws w).toOption)) ∧
        (∀ w ∈ warnings, (fp.fingerprintWarning ws w).toOption = none
          ↔ ∃ e, fp.fingerprintWarning ws w = .error (.read (.source e))) ∧
        (fp.batch ws warnings).parsed = (warnings.map Warning.file).eraseDups ∧
        ∀ others, others.Perm warnings →
          ∃ results', (fp.batch ws others).results = .ok results' ∧ results'.Perm results) ∧
    ∀ front w back, warnings = front ++ w :: back → (∀ v ∈ front, fp.Encodes ws v) →
      ¬ fp.Encodes ws w →
      ∃ e, fp.fingerprintWarning ws w = .error (.encoding e) ∧
        (fp.batch ws warnings).results = .error (.encoding e) ∧
        (fp.batch ws warnings).parsed = ((front ++ [w]).map Warning.file).eraseDups := by
  refine ⟨fun hnames ↦ ?_, ?_⟩
  · have hbatch : ∀ others : List Warning, others.Perm warnings →
        (fp.batch ws others).results
          = .ok (others.map fun w ↦ (w, (fp.fingerprintWarning ws w).toOption)) :=
      fun others hperm ↦ results_batch_of_encodes hgrammar
        (fun w hw ↦ hpaths w (hperm.mem_iff.1 hw)) fun w hw ↦ hnames w (hperm.mem_iff.1 hw)
    have hgets := fun w hw ↦ inBatch_eq_ok hgrammar (hpaths w hw) (hnames w hw)
    refine ⟨_, hbatch warnings (.refl warnings), rfl, fun w hw ↦ (hgets w hw).2, ?_,
      fun others hperm ↦ ⟨_, hbatch others hperm, hperm.map _⟩⟩
    rw [parsed_batch, reached_eq_self fun w hw ↦ ⟨_, (hgets w hw).1⟩]
  · rintro front w back rfl hnames hw
    obtain ⟨e, he⟩ := not_encodes_iff.1 hw
    have hpaths : ∀ v ∈ front, Path.fault? (fp.pathOf v.file) = none :=
      fun v hv ↦ hpaths v (List.mem_append_left _ hv)
    have hgets := fun v hv ↦ inBatch_eq_ok hgrammar (hpaths v hv) (hnames v hv)
    refine ⟨e, he, results_batch_of_encoding hgrammar hpaths hnames he, ?_⟩
    rw [parsed_batch, reached_append (fun v hv ↦ ⟨_, (hgets v hv).1⟩) (inBatch_eq_error he)]

/-- A workspace with the one file `A.java`, an increment of a name. -/
def incrementWorkspace : Workspace where
  files := ⟨[(["A.java", "work"], .file "x++;".toUTF8), (["work"], .directory)], ["work"]⟩
  grammar bytes :=
    { source := .ofBytes bytes
      root :=
        ⟨"program", 0, 4, true, false, none,
          [⟨"expression_statement", 0, 4, true, false, none,
            [⟨"update_expression", 0, 3, true, false, none,
              [⟨"identifier", 0, 1, true, false, none, []⟩,
                ⟨"++", 1, 3, false, false, none, []⟩]⟩,
              ⟨";", 3, 4, false, false, none, []⟩]⟩]⟩
      flagged := false }

theorem signsUpdates_incrementWorkspace : incrementWorkspace.grammar.SignsUpdates := by
  intro bytes
  show ∀ row ∈ (incrementWorkspace.grammar ByteArray.empty).root.rows, isBareUpdate row = false
  decide

/-- Every file with the increment has one and the same tree, strict or not. -/
theorem exists_tree_increment :
    ∃ t, ∀ (fs : Files) (path : Text) (strict : Bool), Path.fault? path = none →
      fs.read path = .ok "x++;".toUTF8 →
      fs.tree incrementWorkspace.grammar path strict = .ok t := by
  have hchecked : checkedSource "x++;".toUTF8 = .ok "x++;".toUTF8 := by decide +kernel
  let reading := incrementWorkspace.grammar "x++;".toUTF8
  have hsound : reading.hasFault = false := rfl
  obtain ⟨outlines, houtlines⟩ : ∃ outlines,
    Java.outlines reading.source reading.root = .ok outlines := ⟨_, rfl⟩
  refine ⟨.ofOutlines outlines, fun fs path strict hpath hread ↦ ?_⟩
  rw [Files.tree, hpath]
  dsimp only
  rw [hread]
  simp only [hchecked]
  show reading.tree path strict = _
  rw [Reading.tree, hsound, Bool.and_false, if_neg Bool.false_ne_true, houtlines]

theorem exists_tree_incrementWorkspace :
    ∃ t, ∀ fp : Fingerprinter, fp.root = "." → fp.tree incrementWorkspace "A.java" = .ok t := by
  obtain ⟨t, ht⟩ := exists_tree_increment
  refine ⟨t, fun fp hroot ↦ ?_⟩
  have hpath : Path.below "." (Path.withSlashes "A.java") = "./A.java" := by decide
  rw [Fingerprinter.tree, pathOf, hroot, hpath]
  exact ht _ _ _ (by decide) rfl

/-- Two warnings in a file and between them one in a file that is missing. -/
theorem batch_missingFile :
    let fp := usual "."
    let warnings : List Warning := [{ file := "A.java", line := 1 },
      { file := "B.java", line := 7 }, { file := "A.java", line := 1, strategy := some .line }]
    incrementWorkspace.grammar.SignsUpdates ∧
      (∀ w ∈ warnings, Path.fault? (fp.pathOf w.file) = none) ∧
      (∀ w ∈ warnings, fp.Encodes incrementWorkspace w) ∧
      (fp.batch incrementWorkspace warnings).parsed = ["A.java", "B.java"] ∧
      ∃ results, (fp.batch incrementWorkspace warnings).results = .ok results ∧
        results.map (fun row ↦ (row.1, row.2.isSome)) = warnings.zip [true, false, true] := by
  intro fp warnings
  have hpaths : ∀ w ∈ warnings, Path.fault? (fp.pathOf w.file) = none := by decide
  have hnames : ∀ w ∈ warnings, fp.Encodes incrementWorkspace w := by
    have hnone : ∀ w ∈ warnings, w.contextName = none := by decide
    intro w hw t _ name hname
    rw [hnone w hw] at hname
    cases hname
  obtain ⟨results, hresults, heq, -, hparsed, -⟩ :=
    (batch_eq_singles fp incrementWorkspace signsUpdates_incrementWorkspace warnings hpaths).1
      hnames
  have hmissing : fp.tree incrementWorkspace "B.java"
      = .error (.source ⟨"./B.java", .unreadable .missing⟩) := by
    have hB : fp.pathOf "B.java" = "./B.java" := by decide
    rw [Fingerprinter.tree, hB]
    rfl
  obtain ⟨t, htree⟩ := exists_tree_incrementWorkspace
  have ht : fp.tree incrementWorkspace "A.java" = .ok t := htree fp rfl
  refine ⟨signsUpdates_incrementWorkspace, hpaths, hnames, hparsed.trans (by decide), results,
    hresults, ?_⟩
  have hsome : ∀ w ∈ warnings, w.file = "A.java" →
      (fp.fingerprintWarning incrementWorkspace w).toOption.isSome = true := by
    intro w hw hfile
    rw [← hfile] at ht
    obtain ⟨f, hf⟩ := exists_fingerprintOn_eq_ok t (hnames w hw t ht)
    rw [fingerprintWarning_of_tree ht, hf]
    rfl
  have hnone : ∀ w : Warning, w.file = "B.java" →
      (fp.fingerprintWarning incrementWorkspace w).toOption.isSome = false := by
    intro w hfile
    rw [fingerprintWarning, hfile, hmissing]
    rfl
  rw [heq]
  simp only [warnings, List.map_cons, List.map_nil, List.zip_cons_cons]
  rw [hsome _ (by decide) rfl, hnone _ rfl, hsome _ (by decide) rfl]
  rfl

/-- The second of two warnings in a file has half of a surrogate pair for its name. Each of them has
a file with a tree, and yet there are no results: the first one would have a fingerprint on its own,
and the second one fails, though not because its source is refused. -/
theorem batch_unpairedName :
    let fp := usual "."
    let named : Warning := { file := "A.java", line := 1 }
    let halved : Warning := { file := "A.java", line := 1, contextName := some ⟨[.half 0]⟩ }
    incrementWorkspace.grammar.SignsUpdates ∧
      (∀ w ∈ [named, halved], Path.fault? (fp.pathOf w.file) = none) ∧
      (∃ f, fp.fingerprintWarning incrementWorkspace named = .ok f) ∧
      ∃ e, fp.fingerprintWarning incrementWorkspace halved = .error (.encoding e) ∧
        (fp.batch incrementWorkspace [named, halved]).results = .error (.encoding e) := by
  intro fp named halved
  have hpaths : ∀ w ∈ [named, halved], Path.fault? (fp.pathOf w.file) = none := by decide
  obtain ⟨t, htree⟩ := exists_tree_incrementWorkspace
  have ht : fp.tree incrementWorkspace "A.java" = .ok t := htree fp rfl
  have hnamed : fp.Encodes incrementWorkspace named := fun _ _ _ h ↦ nomatch h
  have hhalved : ¬ fp.Encodes incrementWorkspace halved := by
    intro h
    obtain ⟨s, hs⟩ := h t ht ⟨[.half 0]⟩ rfl
    have hencode := Text.encode_eq_ok_iff.2 hs
    cases hencode
  obtain ⟨f, hf⟩ := exists_fingerprintOn_eq_ok t (hnamed t ht)
  obtain ⟨e, he⟩ := not_encodes_iff.1 hhalved
  refine ⟨signsUpdates_incrementWorkspace, hpaths, ⟨f, ?_⟩, e, he, ?_⟩
  · rw [fingerprintWarning_of_tree ht, hf]
  · exact results_batch_of_encoding signsUpdates_incrementWorkspace
      (List.forall_mem_singleton.2 (hpaths named List.mem_cons_self))
      (List.forall_mem_singleton.2 hnamed) he

end LintMark.Fingerprinter
