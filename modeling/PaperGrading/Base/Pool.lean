import PaperGrading.Base.Dialogue
import PaperGrading.Base.Runs
import Mathlib.Logic.Function.Basic

/-!
# Dialogues that share a state

Any number of dialogues go on over one state, and the world outside acts on it too.  At every turn
one query is answered, in a way that an input of the turn settles.  A dialogue learns facts from its
answers; a fact stays true.  It keeps its contract if, whatever it is answered, it asks only what the
facts it knows allow and ends only with a result that they justify.

    an invariant that allowed queries preserve holds after every run; what a dialogue has learned
    from the answers it was given is true, and justifies its result             (run_upheld)
    what a turn keeps of the state and of the answers, a run keeps               (run_keeps)
-/

/-- What dialogues may ask on the strength of the facts they know, and what an answer teaches. -/
structure Contract (Q : Type) (A : Q → Type) (F : Type) where
  may : (F → Prop) → Q → Prop
  learned : (q : Q) → A q → F → Prop

namespace Contract

variable {Q : Type} {A : Q → Type} {ρ F : Type}

/-- The dialogue keeps the contract from here on, and ends with a result that `post` allows. -/
def Keeps (c : Contract Q A F) (post : (F → Prop) → ρ → Prop) : (F → Prop) → Dialogue Q A ρ → Prop
  | known, .done r => post known r
  | known, .ask q next => c.may known q ∧ ∀ a, Keeps c post (fun f => known f ∨ c.learned q a f) (next a)

/-- Who keeps a contract keeps one that allows more. -/
theorem Keeps.weaken {c c' : Contract Q A F} {post : (F → Prop) → ρ → Prop}
    (hlearned : c'.learned = c.learned) (hmay : ∀ known q, c.may known q → c'.may known q)
    {d : Dialogue Q A ρ} {known : F → Prop} (h : c.Keeps post known d) : c'.Keeps post known d := by
  induction d generalizing known with
  | done r => exact h
  | ask q next ih =>
    refine ⟨hmay known q h.1, fun a => ih a ?_⟩
    rw [hlearned]
    exact h.2 a

/-- What the answers teach. -/
def Learned (c : Contract Q A F) (heard : List ((q : Q) × A q)) (f : F) : Prop :=
  ∃ x ∈ heard, c.learned x.1 x.2 f

theorem learned_nil (c : Contract Q A F) : c.Learned [] = fun _ => False := by
  ext f
  simp [Learned]

theorem learned_append_singleton (c : Contract Q A F) (heard : List ((q : Q) × A q)) (q : Q) (a : A q) :
    c.Learned (heard ++ [⟨q, a⟩]) = fun f => c.Learned heard f ∨ c.learned q a f := by
  ext f
  simp [Learned, or_and_right, exists_or]

/-- Everything may be asked, and what is learned are the answers. -/
def ofAnswers (Q : Type) (A : Q → Type) : Contract Q A ((q : Q) × A q) where
  may _ _ := True
  learned q a f := f = ⟨q, a⟩

theorem learned_ofAnswers {heard : List ((q : Q) × A q)} {x : (q : Q) × A q} :
    (ofAnswers Q A).Learned heard x ↔ x ∈ heard := by
  constructor
  · rintro ⟨y, hy, rfl⟩
    exact hy
  · intro hx
    exact ⟨x, hx, rfl⟩

end Contract

/-- The dialogues, each with its name, and their state. -/
structure Pool (κ Q : Type) (A : Q → Type) (ρ τ : Type) where
  state : τ
  dialogues : κ → Dialogue Q A ρ

/-- Whose turn it is. -/
inductive Pool.Turn (κ ι ω : Type) where
  | answer (k : κ) (input : ι)
  | outside (o : ω)

namespace Pool

variable {κ ι ω Q : Type} {A : Q → Type} {ρ τ F : Type} [DecidableEq κ]

/-- One turn; a dialogue that has ended stays as it is. -/
def step (h : ι → Dialogue.Handler Q A τ) (outside : ω → τ → τ) (p : Pool κ Q A ρ τ) :
    Turn κ ι ω → Pool κ Q A ρ τ
  | .answer k input =>
    match p.dialogues k with
    | .done _ => p
    | .ask q next =>
      ⟨(h input q p.state).2, Function.update p.dialogues k (next (h input q p.state).1)⟩
  | .outside o => { p with state := outside o p.state }

/-- The answer that a turn gives to dialogue `k`, if it gives one. -/
def heardAt (h : ι → Dialogue.Handler Q A τ) (k : κ) (p : Pool κ Q A ρ τ) :
    Turn κ ι ω → List ((q : Q) × A q)
  | .answer j input =>
    if j = k then
      match p.dialogues k with
      | .done _ => []
      | .ask q _ => [⟨q, (h input q p.state).1⟩]
    else []
  | .outside _ => []

/-- The answers that dialogue `k` is given along a run. -/
def transcript (h : ι → Dialogue.Handler Q A τ) (outside : ω → τ → τ) (k : κ) :
    Pool κ Q A ρ τ → List (Turn κ ι ω) → List ((q : Q) × A q)
  | _, [] => []
  | p, turn :: turns => heardAt h k p turn ++ transcript h outside k (step h outside p turn) turns

/-- The state upholds the invariant and the facts. -/
structure Sound (c : Contract Q A F) (h : ι → Dialogue.Handler Q A τ) (outside : ω → τ → τ)
    (Inv : τ → Prop) (holds : τ → F → Prop) : Prop where
  kept : ∀ input q t known, Inv t → (∀ f, known f → holds t f) → c.may known q → Inv (h input q t).2
  learns : ∀ input q t f, Inv t → c.learned q (h input q t).1 f → holds (h input q t).2 f
  stable : ∀ input q t f, Inv t → holds t f → holds (h input q t).2 f
  outside_kept : ∀ o t, Inv t → Inv (outside o t)
  outside_stable : ∀ o t f, Inv t → holds t f → holds (outside o t) f

/-- The invariant, and of every dialogue that what it has been taught is true and lets it keep the
contract. -/
structure Upheld (c : Contract Q A F) (post : κ → (F → Prop) → ρ → Prop) (Inv : τ → Prop)
    (holds : τ → F → Prop) (heard : κ → List ((q : Q) × A q)) (p : Pool κ Q A ρ τ) : Prop where
  inv : Inv p.state
  true_of_learned : ∀ k f, c.Learned (heard k) f → holds p.state f
  keeps : ∀ k, c.Keeps (post k) (c.Learned (heard k)) (p.dialogues k)

variable {c : Contract Q A F} {post : κ → (F → Prop) → ρ → Prop} {h : ι → Dialogue.Handler Q A τ}
  {outside : ω → τ → τ} {Inv : τ → Prop} {holds : τ → F → Prop} {heard : κ → List ((q : Q) × A q)}
  {p : Pool κ Q A ρ τ}

omit [DecidableEq κ] in
theorem upheld_start {t : τ} {start : κ → Dialogue Q A ρ} (ht : Inv t)
    (hkeeps : ∀ k, c.Keeps (post k) (fun _ => False) (start k)) :
    Upheld c post Inv holds (fun _ => []) ⟨t, start⟩ :=
  ⟨ht, fun _ _ ⟨_, hx, _⟩ => absurd hx (by simp), fun k => c.learned_nil ▸ hkeeps k⟩

omit [DecidableEq κ] in
/-- What a dialogue has been taught justifies its result. -/
theorem Upheld.result (hp : Upheld c post Inv holds heard p) {k : κ} {r : ρ}
    (hk : p.dialogues k = .done r) : post k (c.Learned (heard k)) r := by
  have hkeeps := hp.keeps k
  rwa [hk] at hkeeps

theorem step_done {k : κ} {r : ρ} (hk : p.dialogues k = .done r) (input : ι) :
    step h outside p (.answer k input) = p := by
  simp only [step, hk]

theorem step_ask {k : κ} {q : Q} {next : A q → Dialogue Q A ρ} (hk : p.dialogues k = .ask q next)
    (input : ι) : step h outside p (.answer k input) = ⟨(h input q p.state).2,
      Function.update p.dialogues k (next (h input q p.state).1)⟩ := by
  simp only [step, hk]

theorem heardAt_done {k : κ} {r : ρ} (hk : p.dialogues k = .done r) (j : κ) (input : ι) :
    heardAt (ω := ω) h j p (.answer k input) = [] := by
  unfold heardAt
  by_cases hj : k = j
  · subst hj
    simp only [hk, if_pos]
  · simp only [if_neg hj]

theorem heardAt_ask {k : κ} {q : Q} {next : A q → Dialogue Q A ρ} (hk : p.dialogues k = .ask q next)
    (input : ι) : heardAt (ω := ω) h k p (.answer k input) = [⟨q, (h input q p.state).1⟩] := by
  simp only [heardAt, hk, if_pos]

theorem heardAt_of_ne {j k : κ} (hj : k ≠ j) (input : ι) :
    heardAt (ω := ω) h j p (.answer k input) = [] := by
  simp only [heardAt, if_neg hj]

/-- A turn keeps the contracts, one for each dialogue, whatever it does to the state. -/
theorem step_keeps {cs : κ → Contract Q A F}
    (hkeeps : ∀ k, (cs k).Keeps (post k) ((cs k).Learned (heard k)) (p.dialogues k))
    (turn : Turn κ ι ω) (k : κ) :
    (cs k).Keeps (post k) ((cs k).Learned (heard k ++ heardAt h k p turn))
      ((step h outside p turn).dialogues k) := by
  cases turn with
  | outside o =>
    simp only [heardAt, List.append_nil]
    exact hkeeps k
  | answer j input =>
    cases hj : p.dialogues j with
    | done r =>
      rw [heardAt_done hj, List.append_nil, step_done hj]
      exact hkeeps k
    | ask q next =>
      rw [step_ask hj]
      by_cases hjk : j = k
      · subst hjk
        have hnext := hkeeps j
        rw [hj] at hnext
        rw [heardAt_ask hj, Contract.learned_append_singleton]
        simpa using hnext.2 (h input q p.state).1
      · rw [heardAt_of_ne hjk, List.append_nil]
        simpa only [Function.update_of_ne (Ne.symm hjk)] using hkeeps k

theorem step_upheld (hs : Sound c h outside Inv holds) (hp : Upheld c post Inv holds heard p)
    (turn : Turn κ ι ω) :
    Upheld c post Inv holds (fun k => heard k ++ heardAt h k p turn) (step h outside p turn) := by
  have hkeeps : ∀ k, c.Keeps (post k) (c.Learned (heard k ++ heardAt h k p turn))
      ((step h outside p turn).dialogues k) := step_keeps hp.keeps turn
  cases turn with
  | outside o =>
    refine ⟨hs.outside_kept o _ hp.inv, fun k f hf => ?_, hkeeps⟩
    simp only [heardAt, List.append_nil] at hf
    exact hs.outside_stable o _ f hp.inv (hp.true_of_learned k f hf)
  | answer k input =>
    cases hk : p.dialogues k with
    | done r =>
      simp only [heardAt_done hk, List.append_nil, step_done hk]
      exact hp
    | ask q next =>
      have hmay := hp.keeps k
      rw [hk] at hmay
      have hstable (j : κ) (f : F) (hf : c.Learned (heard j) f) : holds (h input q p.state).2 f :=
        hs.stable input q _ f hp.inv (hp.true_of_learned j f hf)
      refine ⟨?_, fun j f hf => ?_, hkeeps⟩
      · rw [step_ask hk]
        exact hs.kept input q _ _ hp.inv (hp.true_of_learned k) hmay.1
      · rw [step_ask hk]
        by_cases hj : k = j
        · subst hj
          rw [heardAt_ask hk, c.learned_append_singleton] at hf
          rcases hf with hf | hf
          · exact hstable k f hf
          · exact hs.learns input q _ f hp.inv hf
        · rw [heardAt_of_ne hj, List.append_nil] at hf
          exact hstable j f hf

theorem run_upheld (hs : Sound c h outside Inv holds) (hp : Upheld c post Inv holds heard p)
    (turns : List (Turn κ ι ω)) :
    Upheld c post Inv holds (fun k => heard k ++ transcript h outside k p turns)
      (Runs.run (step h outside) p turns) := by
  induction turns generalizing p heard with
  | nil =>
    simp only [transcript, List.append_nil]
    exact hp
  | cons turn turns ih =>
    have hstep := ih (step_upheld hs hp turn)
    simp only [List.append_assoc] at hstep
    exact hstep

/-- **What the turns of an upheld pool keep, of the state and of the answers, a run of them keeps.** -/
theorem run_keeps (hs : Sound c h outside Inv holds)
    {T : (κ → List ((q : Q) × A q)) → Pool κ Q A ρ τ → Prop} {turns : List (Turn κ ι ω)}
    (hstep : ∀ heard p, Upheld c post Inv holds heard p → T heard p → ∀ turn ∈ turns,
      T (fun k => heard k ++ heardAt h k p turn) (step h outside p turn))
    (hp : Upheld c post Inv holds heard p) (hT : T heard p) :
    T (fun k => heard k ++ transcript h outside k p turns) (Runs.run (step h outside) p turns) := by
  induction turns generalizing p heard with
  | nil =>
    simp only [transcript, List.append_nil]
    exact hT
  | cons turn turns ih =>
    have hnext := ih (fun heard p hp hT turn hmem => hstep heard p hp hT turn (List.mem_cons_of_mem _ hmem))
      (step_upheld hs hp turn) (hstep heard p hp hT turn List.mem_cons_self)
    simp only [List.append_assoc] at hnext
    exact hnext

/-- What holds of the state and is stable stays. -/
theorem run_stable (hs : Sound c h outside Inv holds) (hp : Upheld c post Inv holds heard p) {f : F}
    (hf : holds p.state f) (turns : List (Turn κ ι ω)) :
    holds (Runs.run (step h outside) p turns).state f := by
  induction turns generalizing p heard with
  | nil => exact hf
  | cons turn turns ih =>
    refine ih (step_upheld hs hp turn) ?_
    cases turn with
    | outside o => exact hs.outside_stable o _ f hp.inv hf
    | answer k input =>
      cases hk : p.dialogues k with
      | done => exact (step_done hk input).symm ▸ hf
      | ask query next =>
        rw [step_ask hk]
        exact hs.stable input query _ f hp.inv hf

end Pool
