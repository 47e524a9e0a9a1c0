import PaperGrading.Base.Worklist
import PaperGrading.Parsing.Blocks

/-!
# The scan for active content

`_reject_active_content` walks the object graph of a PDF with a stack.  It remembers references by
their numbers and direct containers by their identity; other values are not remembered.  The scan
is a sweep over `Visit`s: references, direct containers, and the entries of what was visited.

    the scan is the sweep                                                        (scan_eq_sweep)
    it ends without error iff no dictionary that the trailer reaches is active and no more
      than `maxPdfObjectsInspected` values are to be inspected             (rejectActiveContent_iff)
-/

namespace PaperGrading

/-! ## Object graphs -/

/-- Object number and generation. -/
abbrev PdfReference := Nat × Nat

/-- An object: a container by its identity, or any other value by its text. -/
inductive PdfObject where
  | container (id : Nat)
  | atom (text : String)
  deriving DecidableEq

/-- A value in a container. -/
inductive PdfValue where
  | direct (object : PdfObject)
  | indirect (reference : PdfReference)
  deriving DecidableEq

/-- The content of a container; the keys of a dictionary are unique. -/
inductive PdfNode where
  | dict (entries : List (String × PdfValue)) (unique : (entries.map (·.1)).Nodup)
  | array (items : List PdfValue)

def PdfNode.values : PdfNode → List PdfValue
  | .dict entries _ => entries.map (·.2)
  | .array items => items

/-- The containers that are alive, the objects that references stand for, and the trailer. -/
structure PdfGraph where
  node : Nat → PdfNode
  target : PdfReference → PdfObject
  trailer : Nat

namespace PdfGraph

/-- The object that a value stands for. -/
def denotes (g : PdfGraph) : PdfValue → PdfObject
  | .direct object => object
  | .indirect reference => g.target reference

def values (g : PdfGraph) : PdfObject → List PdfValue
  | .container id => (g.node id).values
  | .atom _ => []

inductive Reachable (g : PdfGraph) : PdfObject → Prop where
  | trailer : Reachable g (.container g.trailer)
  | entry {object : PdfObject} {value : PdfValue} :
      Reachable g object → value ∈ g.values object → Reachable g (g.denotes value)

end PdfGraph

/-- The library: `get_object()` of a reference, and `str()` of a value. -/
structure PdfLibrary where
  getObject : PdfReference → PdfObject
  str : PdfValue → String

/-- Resolving or printing a reference yields its target; a container prints with a bracket. -/
structure PdfLibrary.Reads (lib : PdfLibrary) (g : PdfGraph) : Prop where
  getObject : ∀ reference, lib.getObject reference = g.target reference
  printIndirect : ∀ reference,
    lib.str (.indirect reference) = lib.str (.direct (g.target reference))
  printAtom : ∀ text, lib.str (.direct (.atom text)) = text
  printContainer : ∀ id, (lib.str (.direct (.container id))).toList.head? ≠ some '/'

/-! ## The scan -/

def forbiddenPdfKeys : List String :=
  ["/AA", "/AcroForm", "/EmbeddedFiles", "/JavaScript", "/Launch", "/OpenAction", "/RichMedia",
    "/XFA"]

def forbiddenPdfActions : List String :=
  ["/GoToE", "/GoToR", "/ImportData", "/JavaScript", "/Launch", "/Rendition", "/SubmitForm", "/URI"]

def maxPdfObjectsInspected : Nat := 100000

/-- The test of a dictionary; `str(None)` of a missing action. -/
def isActive (lib : PdfLibrary) (g : PdfGraph) : PdfObject → Bool
  | .container id =>
    match g.node id with
    | .dict entries _ =>
      let action := match entries.lookup "/S" with
        | some value => lib.str value
        | none => "None"
      entries.any (forbiddenPdfKeys.contains ·.1) || forbiddenPdfActions.contains action
    | .array _ => false
  | .atom _ => false

/-- `seen_indirect` and `seen_direct`. -/
structure SeenObjects where
  indirect : List PdfReference
  direct : List Nat

/-- The object to inspect, unless the value was seen. -/
def visit (lib : PdfLibrary) (seen : SeenObjects) : PdfValue → Option (PdfObject × SeenObjects)
  | .indirect reference =>
    if seen.indirect.contains reference then none
    else some (lib.getObject reference, { seen with indirect := reference :: seen.indirect })
  | .direct (.container id) =>
    if seen.direct.contains id then none
    else some (.container id, { seen with direct := id :: seen.direct })
  | .direct (.atom text) => some (.atom text, seen)

/-- The loop; the stack grows at its head. -/
def scan (lib : PdfLibrary) (g : PdfGraph) : Nat → SeenObjects → List PdfValue →
    Except DocumentParseError Unit
  | _, _, [] => .ok ()
  | inspected, seen, current :: stack =>
    match visit lib seen current with
    | none => scan lib g inspected seen stack
    | some (object, seen') =>
      if maxPdfObjectsInspected < inspected + 1 then
        .error ⟨"pdf_structure_too_complex", "PDF 对象结构超过安全限制"⟩
      else if isActive lib g object then
        .error ⟨"pdf_active_content_unsupported", "PDF 包含脚本、外部动作、附件或交互表单"⟩
      else scan lib g (inspected + 1) seen' ((g.values object).reverse ++ stack)
  termination_by inspected _ stack => (maxPdfObjectsInspected - inspected, stack.length)
  decreasing_by
    · simp [Prod.lex_def]
    · simp only [Prod.lex_def]
      omega

/-- `_reject_active_content`. -/
def rejectActiveContent (lib : PdfLibrary) (g : PdfGraph) : Except DocumentParseError Unit :=
  scan lib g 0 ⟨[], []⟩ [.direct (.container g.trailer)]

/-! ## Visits -/

/-- A reference, a direct container, or an entry of what was visited that is neither. -/
inductive Visit where
  | reference (r : PdfReference)
  | container (id : Nat)
  | entry (host : Visit) (index : Nat) (text : String)
  deriving DecidableEq

namespace Visit

variable (g : PdfGraph)

def object : Visit → PdfObject
  | .reference r => g.target r
  | .container id => .container id
  | .entry _ _ text => .atom text

/-- The value on the stack. -/
def value : Visit → PdfValue
  | .reference r => .indirect r
  | .container id => .direct (.container id)
  | .entry _ _ text => .direct (.atom text)

def tracked : Visit → Bool
  | .entry _ _ _ => false
  | _ => true

def ofEntry (host : Visit) : PdfValue × Nat → Visit
  | (.indirect r, _) => .reference r
  | (.direct (.container id), _) => .container id
  | (.direct (.atom text), index) => .entry host index text

def next (v : Visit) : List Visit := (g.values (v.object g)).zipIdx.map (ofEntry v)

@[simp] theorem value_ofEntry (host : Visit) (x : PdfValue × Nat) : (ofEntry host x).value = x.1 := by
  obtain ⟨(_ | _) | _, _⟩ := x <;> rfl

theorem denotes_value (v : Visit) : g.denotes v.value = v.object g := by cases v <;> rfl

theorem map_value_next (v : Visit) : (v.next g).map value = g.values (v.object g) := by
  unfold next
  rw [List.map_map]
  have : value ∘ ofEntry v = Prod.fst := funext fun x => value_ofEntry v x
  rw [this, List.zipIdx_map_fst]

theorem ofEntry_untracked {host : Visit} {x : PdfValue × Nat} (h : (ofEntry host x).tracked = false) :
    ∃ text, ofEntry host x = .entry host x.2 text := by
  obtain ⟨(_ | text) | _, index⟩ := x
  · cases h
  · exact ⟨text, rfl⟩
  · cases h

theorem oneParent : Worklist.OneParent (next g) tracked (.container g.trailer) where
  start := rfl
  parent := by
    intro u u' w hu hu' hw
    obtain ⟨x, -, rfl⟩ := List.mem_map.1 hu
    obtain ⟨y, -, heq⟩ := List.mem_map.1 hu'
    obtain ⟨text, ht⟩ := ofEntry_untracked hw
    obtain ⟨text', ht'⟩ := @ofEntry_untracked u' y (by rw [heq]; exact hw)
    rw [heq, ht, Visit.entry.injEq] at ht'
    exact ht'.1
  once := by
    intro u
    unfold next
    rw [List.Nodup, List.pairwise_filter, List.pairwise_map]
    have hindex : (g.values (u.object g)).zipIdx.Pairwise fun x y => x.2 ≠ y.2 :=
      List.pairwise_map.1 (by rw [List.zipIdx_map_snd]; exact List.nodup_range')
    refine hindex.imp fun {x y} hne hx hy heq => ?_
    obtain ⟨text, hx⟩ := ofEntry_untracked (by simpa using hx)
    obtain ⟨text', hy⟩ := ofEntry_untracked (by simpa using hy)
    rw [hx, hy, Visit.entry.injEq] at heq
    exact hne heq.2.1

/-- The visits reach the objects that the trailer reaches. -/
theorem reachable_iff {o : PdfObject} : g.Reachable o ↔
    ∃ v, Worklist.Reached (next g) (.container g.trailer) v ∧ v.object g = o := by
  constructor
  · intro h
    induction h with
    | trailer => exact ⟨_, .start, rfl⟩
    | entry _ hvalue ih =>
      obtain ⟨v, hv, rfl⟩ := ih
      rw [← map_value_next] at hvalue
      obtain ⟨w, hw, rfl⟩ := List.mem_map.1 hvalue
      exact ⟨w, hv.step hw, (denotes_value g w).symm⟩
  · rintro ⟨v, hv, rfl⟩
    induction hv with
    | start => exact .trailer
    | step _ hw ih =>
      rw [← denotes_value]
      refine ih.entry ?_
      rw [← map_value_next]
      exact List.mem_map.2 ⟨_, hw, rfl⟩

end Visit

/-! ## The scan is a sweep -/

variable {lib : PdfLibrary} {g : PdfGraph}

/-- The sets of the code hold the tracked visits. -/
structure SeenObjects.Holds (seen : SeenObjects) (visits : List Visit) : Prop where
  indirect : ∀ reference, reference ∈ seen.indirect ↔ .reference reference ∈ visits
  direct : ∀ id, id ∈ seen.direct ↔ .container id ∈ visits

theorem visit_cases (hlib : lib.Reads g) {seen : SeenObjects} {visits : List Visit}
    (h : seen.Holds visits) (v : Visit) :
    (v.tracked && visits.contains v) = true ∧ visit lib seen v.value = none ∨
      (v.tracked && visits.contains v) = false ∧
        ∃ seen', visit lib seen v.value = some (v.object g, seen') ∧
          seen'.Holds (if v.tracked then v :: visits else visits) := by
  cases v with
  | reference reference =>
    by_cases hmem : reference ∈ seen.indirect
    · have hvisits := (h.indirect reference).1 hmem
      exact .inl ⟨by simpa [Visit.tracked] using hvisits, by simp [visit, Visit.value, hmem]⟩
    · have hvisits := mt (h.indirect reference).2 hmem
      refine .inr ⟨by simpa [Visit.tracked] using hvisits, _,
        by simp [visit, Visit.value, hmem, hlib.getObject, Visit.object]; rfl, ?_, ?_⟩
      · intro r
        simp [Visit.tracked, h.indirect r]
      · intro id
        simp [Visit.tracked, h.direct id]
  | container id =>
    by_cases hmem : id ∈ seen.direct
    · have hvisits := (h.direct id).1 hmem
      exact .inl ⟨by simpa [Visit.tracked] using hvisits, by simp [visit, Visit.value, hmem]⟩
    · have hvisits := mt (h.direct id).2 hmem
      refine .inr ⟨by simpa [Visit.tracked] using hvisits, _,
        by simp [visit, Visit.value, hmem, Visit.object]; rfl, ?_, ?_⟩
      · intro r
        simp [Visit.tracked, h.indirect r]
      · intro i
        simp [Visit.tracked, h.direct i]
  | entry host index text => exact .inr ⟨rfl, seen, rfl, h⟩

def activeContent : DocumentParseError :=
  ⟨"pdf_active_content_unsupported", "PDF 包含脚本、外部动作、附件或交互表单"⟩

def tooComplex : DocumentParseError := ⟨"pdf_structure_too_complex", "PDF 对象结构超过安全限制"⟩

/-- What the code makes of an outcome. -/
def outcomeResult : Worklist.Outcome Visit → Except DocumentParseError Unit
  | .passed => .ok ()
  | .refused _ => .error activeContent
  | .tooMany => .error tooComplex

theorem scan_eq_sweep (hlib : lib.Reads g) (inspected : Nat) (visits stack : List Visit)
    {seen : SeenObjects} (h : seen.Holds visits) :
    scan lib g inspected seen (stack.map Visit.value) =
      outcomeResult (Worklist.sweep (Visit.next g) (fun v => isActive lib g (v.object g)) Visit.tracked
        maxPdfObjectsInspected inspected visits stack) := by
  induction inspected, visits, stack using Worklist.sweep.induct (Visit.next g)
    (fun v => isActive lib g (v.object g)) Visit.tracked maxPdfObjectsInspected
    generalizing seen with
  | case1 inspected visits =>
    rw [Worklist.sweep, List.map_nil, scan]
    rfl
  | case2 inspected visits v stack hskip ih =>
    rw [Worklist.sweep, if_pos hskip, List.map_cons, scan]
    rcases visit_cases hlib h v with ⟨-, hv⟩ | ⟨hno, -⟩
    · rw [hv]
      exact ih h
    · rw [hno] at hskip
      cases hskip
  | case3 inspected visits v stack hskip hlimit =>
    rw [Worklist.sweep, if_neg hskip, if_pos hlimit, List.map_cons, scan]
    rcases visit_cases hlib h v with ⟨hyes, -⟩ | ⟨-, seen', hv, -⟩
    · exact absurd hyes hskip
    · rw [hv]
      exact if_pos hlimit
  | case4 inspected visits v stack hskip hlimit hrefuses =>
    rw [Worklist.sweep, if_neg hskip, if_neg hlimit, if_pos hrefuses, List.map_cons, scan]
    rcases visit_cases hlib h v with ⟨hyes, -⟩ | ⟨-, seen', hv, -⟩
    · exact absurd hyes hskip
    · rw [hv]
      exact (if_neg hlimit).trans (if_pos hrefuses)
  | case5 inspected visits v stack hskip hlimit hrefuses ih =>
    rw [Worklist.sweep, if_neg hskip, if_neg hlimit, if_neg hrefuses, List.map_cons, scan]
    rcases visit_cases hlib h v with ⟨hyes, -⟩ | ⟨-, seen', hv, hholds⟩
    · exact absurd hyes hskip
    · rw [hv]
      refine (if_neg hlimit).trans ((if_neg hrefuses).trans ?_)
      rw [← Visit.map_value_next, ← List.map_reverse, ← List.map_append]
      exact ih hholds

/-! ## What is rejected -/

/-- A dictionary with a forbidden key or an action that resolves to a forbidden name. -/
def PdfGraph.Active (g : PdfGraph) : PdfObject → Prop
  | .container id =>
    match g.node id with
    | .dict entries _ => (∃ entry ∈ entries, entry.1 ∈ forbiddenPdfKeys) ∨
        ∃ value, ("/S", value) ∈ entries ∧ ∃ name ∈ forbiddenPdfActions, g.denotes value = .atom name
    | .array _ => False
  | .atom _ => False

theorem lookup_eq_some {α : Type} {entries : List (String × α)} (h : (entries.map (·.1)).Nodup)
    {key : String} {value : α} : entries.lookup key = some value ↔ (key, value) ∈ entries := by
  induction entries with
  | nil => simp
  | cons entry entries ih =>
    obtain ⟨k, v⟩ := entry
    rw [List.map_cons, List.nodup_cons] at h
    rw [List.lookup_cons, List.mem_cons]
    by_cases hk : key = k
    · subst hk
      have hrest : (key, value) ∉ entries := fun hmem => h.1 (List.mem_map.2 ⟨_, hmem, rfl⟩)
      simp [hrest, eq_comm]
    · have : (key == k) = false := by simpa using hk
      simp [this, hk, ih h.2]

/-- A value prints as a forbidden action iff it stands for that name. -/
theorem str_forbidden_iff (hlib : lib.Reads g) {value : PdfValue} :
    lib.str value ∈ forbiddenPdfActions ↔
      ∃ name ∈ forbiddenPdfActions, g.denotes value = .atom name := by
  have hdirect (o : PdfObject) : lib.str (.direct o) ∈ forbiddenPdfActions ↔
      ∃ name ∈ forbiddenPdfActions, o = .atom name := by
    cases o with
    | atom text =>
      rw [hlib.printAtom]
      simp
    | container id =>
      refine iff_of_false (fun hmem => ?_) (by simp)
      have hslash : ∀ name ∈ forbiddenPdfActions, name.toList.head? = some '/' := by decide
      exact hlib.printContainer id (hslash _ hmem)
  cases value with
  | direct o => exact hdirect o
  | indirect r =>
    rw [hlib.printIndirect]
    exact hdirect (g.target r)

theorem isActive_iff (hlib : lib.Reads g) {o : PdfObject} :
    isActive lib g o = true ↔ g.Active o := by
  cases o with
  | atom text => simp [isActive, PdfGraph.Active]
  | container id =>
    unfold isActive PdfGraph.Active
    simp only
    cases g.node id with
    | array items => simp
    | dict entries unique =>
      simp only [Bool.or_eq_true, List.any_eq_true, List.contains_iff_mem]
      refine or_congr Iff.rfl ?_
      cases hlookup : entries.lookup "/S" with
      | none =>
        refine iff_of_false (show "None" ∉ forbiddenPdfActions by decide) ?_
        rintro ⟨value, hmem, -⟩
        rw [(lookup_eq_some unique).2 hmem] at hlookup
        cases hlookup
      | some action =>
        rw [str_forbidden_iff hlib]
        constructor
        · exact fun h => ⟨action, (lookup_eq_some unique).1 hlookup, h⟩
        · rintro ⟨value, hmem, h⟩
          rw [(lookup_eq_some unique).2 hmem] at hlookup
          cases hlookup
          exact h

/-- More than `maxPdfObjectsInspected` values are to be inspected. -/
def PdfGraph.TooLarge (g : PdfGraph) : Prop :=
  ∃ visits : List Visit, visits.Nodup ∧ maxPdfObjectsInspected < visits.length ∧
    ∀ v ∈ visits, Worklist.Reached (Visit.next g) (.container g.trailer) v

/-- **The scan passes exactly the graphs of a bounded size in which the trailer reaches no active
dictionary, and its error says which it is.** -/
theorem rejectActiveContent_iff (hlib : lib.Reads g) :
    (rejectActiveContent lib g = .ok () ↔ (∀ o, g.Reachable o → ¬g.Active o) ∧ ¬g.TooLarge) ∧
      ∀ e, rejectActiveContent lib g = .error e →
        e = activeContent ∧ (∃ o, g.Reachable o ∧ g.Active o) ∨ e = tooComplex ∧ g.TooLarge := by
  have hempty : SeenObjects.Holds ⟨[], []⟩ [] := ⟨by simp, by simp⟩
  have hreject : rejectActiveContent lib g = _ :=
    scan_eq_sweep hlib 0 [] [.container g.trailer] hempty
  have hsound : Worklist.Sound (Visit.next g) (fun v => isActive lib g (v.object g))
      (.container g.trailer) maxPdfObjectsInspected _ := Worklist.sweep_start_sound (Visit.oneParent g)
  rw [hreject]
  cases houtcome : Worklist.sweep (Visit.next g) (fun v => isActive lib g (v.object g)) Visit.tracked
    maxPdfObjectsInspected 0 [] [.container g.trailer] with
  | passed =>
    rw [houtcome] at hsound
    obtain ⟨hfine, l, hlength, hall⟩ := hsound
    refine ⟨iff_of_true rfl ⟨fun o ho hactive => ?_, ?_⟩, fun e he => by cases he⟩
    · obtain ⟨v, hv, rfl⟩ := (Visit.reachable_iff g).1 ho
      have hclean : isActive lib g (v.object g) = false := hfine v hv
      rw [(isActive_iff hlib).2 hactive] at hclean
      cases hclean
    · rintro ⟨visits, hnodup, hmany, hreached⟩
      have hsub : visits ⊆ l := fun v hv => hall v (hreached v hv)
      have := (List.subperm_of_subset hnodup hsub).length_le
      omega
  | refused v =>
    rw [houtcome] at hsound
    have hactive : ∃ o, g.Reachable o ∧ g.Active o :=
      ⟨_, (Visit.reachable_iff g).2 ⟨v, hsound.1, rfl⟩, (isActive_iff hlib).1 hsound.2⟩
    refine ⟨iff_of_false (by simp [outcomeResult]) fun h => ?_, fun e he => ?_⟩
    · obtain ⟨o, ho, hactive⟩ := hactive
      exact h.1 o ho hactive
    · cases he
      exact .inl ⟨rfl, hactive⟩
  | tooMany =>
    rw [houtcome] at hsound
    refine ⟨iff_of_false (by simp [outcomeResult]) fun h => h.2 hsound, fun e he => ?_⟩
    cases he
    exact .inr ⟨rfl, hsound⟩

/-! ## A cyclic graph -/

namespace Sample

/-- The trailer holds itself and a reference to an array, which holds its own reference and a
dictionary whose action is a reference. -/
def cyclicPdf : PdfGraph where
  node
    | 0 => .dict [("/Size", .direct (.atom "3")), ("/Root", .indirect (1, 0)),
        ("/Loop", .direct (.container 0))] (by decide)
    | 1 => .array [.indirect (1, 0), .direct (.container 2)]
    | _ => .dict [("/S", .indirect (2, 0))] (by decide)
  target
    | (1, 0) => .container 1
    | _ => .atom "/URI"
  trailer := 0

def pdfLibrary (g : PdfGraph) : PdfLibrary where
  getObject := g.target
  str value :=
    match g.denotes value with
    | .atom text => text
    | .container _ => "["

theorem pdfLibrary_reads (g : PdfGraph) : (pdfLibrary g).Reads g :=
  ⟨fun _ => rfl, fun _ => rfl, fun _ => rfl, fun _ => (show "[".toList.head? ≠ some '/' by decide)⟩

theorem cyclicPdf_scanned :
    (rejectActiveContent (pdfLibrary cyclicPdf) cyclicPdf = .ok () ↔
      (∀ o, cyclicPdf.Reachable o → ¬cyclicPdf.Active o) ∧ ¬cyclicPdf.TooLarge) ∧
      ∀ e, rejectActiveContent (pdfLibrary cyclicPdf) cyclicPdf = .error e →
        e = activeContent ∧ (∃ o, cyclicPdf.Reachable o ∧ cyclicPdf.Active o) ∨
          e = tooComplex ∧ cyclicPdf.TooLarge :=
  rejectActiveContent_iff (pdfLibrary_reads cyclicPdf)

end Sample

end PaperGrading
