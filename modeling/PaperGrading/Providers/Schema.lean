import PaperGrading.Base.Checks
import PaperGrading.Base.Table
import PaperGrading.Domain.CanonicalJson
import Mathlib.Data.List.Induction
import Mathlib.Logic.Relation

/-!
# Schemas for the providers

`providers/schema.py`: the result schema is decoded, its references are inlined and keywords that a
provider does not support are left out.  `_project_node` treats every object as a schema, also the
maps from property names to schemas and the data under `default` or `enum`.

    no object of a projection has a `$ref`, a `const` or a dropped key      (supported_projectNode)
    what is compiled is the projection of the whole schema           (compileProviderSchema_eq_ok)
-/

namespace PaperGrading

/-! ## Algorithm -/

inductive ProviderSchemaDialect where
  | openai
  | anthropic
  | gemini
  deriving DecidableEq

/-- A `ValueError`. -/
structure SchemaError where
  message : String
  deriving DecidableEq

def pydanticOnlyKeys : List String := ["decimal_places", "max_digits"]

def geminiUnsupportedKeys : List String :=
  ["pattern", "minLength", "maxLength", "minItems", "maxItems"]

namespace ProviderSchemaDialect

/-- Whether `required` and `additionalProperties` are set. -/
def strict : ProviderSchemaDialect → Bool
  | .openai | .anthropic => true
  | .gemini => false

/-- A key that the loop over the fields skips. -/
def drops (dialect : ProviderSchemaDialect) (key : String) : Bool :=
  key == "$defs" || pydanticOnlyKeys.contains key ||
    dialect == .gemini && geminiUnsupportedKeys.contains key

end ProviderSchemaDialect

abbrev Definitions := List (String × Js)

def referencePrefix : List Char := "#/$defs/".toList

/-- `_resolve_reference`. -/
def resolveReference (reference : String) (definitions : Definitions) : Except SchemaError Js :=
  if referencePrefix.isPrefixOf reference.toList then
    let name := reference.toList.drop referencePrefix.length
    if name = [] ∨ '/' ∈ name then .error ⟨"结果 Schema 包含无效本地引用"⟩
    else
      match Js.get? definitions (String.ofList name) with
      | some definition => .ok definition
      | none => .error ⟨"结果 Schema 包含无效本地引用"⟩
  else .error ⟨"结果 Schema 只能引用本地 $defs"⟩

/-- `projected[key] = value`. -/
def setKey (fields : List (String × Js)) (key : String) (value : Js) : List (String × Js) :=
  if fields.any (·.1 == key) then fields.map fun f => if f.1 = key then (key, value) else f
  else fields ++ [(key, value)]

/-- The strict dialects require every property and forbid others. -/
def closeObject (dialect : ProviderSchemaDialect) (projected : List (String × Js)) :
    List (String × Js) :=
  match dialect.strict, Js.get? projected "properties" with
  | true, some (.obj properties) =>
    setKey (setKey projected "required" (.arr (properties.map fun p => .str p.1)))
      "additionalProperties" (.bool false)
  | _, _ => projected

/-- The definitions that a walk is not inside of. -/
def unresolved (definitions : Definitions) (stack : List String) : Nat :=
  (definitions.filter fun d => !stack.contains ("#/$defs/" ++ d.1)).length

theorem get?_mem {fields : List (String × Js)} {key : String} {value : Js}
    (h : Js.get? fields key = some value) : (key, value) ∈ fields := by
  unfold Js.get? at h
  obtain ⟨f, hf, rfl⟩ := Option.map_eq_some_iff.1 h
  have hkey : f.1 = key := by simpa using List.find?_some hf
  rw [← hkey]
  exact List.mem_reverse.1 (List.mem_of_find?_eq_some hf)

theorem resolveReference_eq_ok {reference : String} {definitions : Definitions} {definition : Js}
    (h : resolveReference reference definitions = .ok definition) :
    ∃ name, reference = "#/$defs/" ++ name ∧ (name, definition) ∈ definitions := by
  unfold resolveReference at h
  split at h
  · next hstarts =>
    rw [List.isPrefixOf_iff_prefix, List.prefix_iff_eq_append] at hstarts
    dsimp only at h
    split at h
    · cases h
    · split at h
      · next hget =>
        cases h
        refine ⟨_, ?_, get?_mem hget⟩
        apply String.toList_injective
        rw [String.toList_append]
        show _ = referencePrefix ++ (String.ofList _).toList
        rw [String.toList_ofList]
        exact hstarts.symm
      · cases h
  · cases h

theorem unresolved_lt {definitions : Definitions} {stack : List String} {reference : String}
    {definition : Js} (hstack : reference ∉ stack)
    (h : resolveReference reference definitions = .ok definition) :
    unresolved definitions (reference :: stack) < unresolved definitions stack := by
  obtain ⟨name, rfl, hmem⟩ := resolveReference_eq_ok h
  unfold unresolved
  have hfilter : (definitions.filter fun d => !(("#/$defs/" ++ name) :: stack).contains ("#/$defs/" ++ d.1)) =
      (definitions.filter fun d => !stack.contains ("#/$defs/" ++ d.1)).filter
        fun d => !(("#/$defs/" ++ name) :: stack).contains ("#/$defs/" ++ d.1) := by
    rw [List.filter_filter]
    refine List.filter_congr fun d _ => ?_
    rw [List.contains_cons]
    cases stack.contains ("#/$defs/" ++ d.1) <;> simp
  rw [hfilter, List.length_filter_lt_length_iff_exists]
  exact ⟨(name, definition), List.mem_filter.2 ⟨hmem, by simpa using hstack⟩, by simp⟩

mutual

/-- `_project_node`; the stack holds the references that the walk is inside of. -/
def projectNode (dialect : ProviderSchemaDialect) (definitions : Definitions) (stack : List String) :
    Js → Except SchemaError Js
  | .arr items => do return .arr (← projectItems dialect definitions stack items)
  | .obj fields =>
    match Js.get? fields "$ref" with
    | some (.str reference) =>
      if _hstack : reference ∈ stack then .error ⟨"结果 Schema 包含无效或递归引用"⟩
      else
        match _hresolved : resolveReference reference definitions with
        | .error e => .error e
        | .ok resolved => projectNode dialect definitions (reference :: stack) resolved
    | some _ => .error ⟨"结果 Schema 包含无效或递归引用"⟩
    | none => do
      return .obj (closeObject dialect (← projectFields dialect definitions stack [] fields))
  | value => .ok value
  termination_by value => (unresolved definitions stack, sizeOf value)
  decreasing_by
    · simp [Prod.lex_def]
    · exact Prod.Lex.left _ _ (unresolved_lt _hstack _hresolved)
    · simp [Prod.lex_def]

def projectItems (dialect : ProviderSchemaDialect) (definitions : Definitions) (stack : List String) :
    List Js → Except SchemaError (List Js)
  | [] => .ok []
  | item :: items => do
    let item ← projectNode dialect definitions stack item
    let items ← projectItems dialect definitions stack items
    return item :: items
  termination_by items => (unresolved definitions stack, sizeOf items)
  decreasing_by
    all_goals
      refine Prod.Lex.right _ ?_
      simp only [List.cons.sizeOf_spec]
      omega

/-- The loop over the fields of a schema. -/
def projectFields (dialect : ProviderSchemaDialect) (definitions : Definitions) (stack : List String)
    (projected : List (String × Js)) : List (String × Js) → Except SchemaError (List (String × Js))
  | [] => .ok projected
  | (key, item) :: rest =>
    if dialect.drops key then projectFields dialect definitions stack projected rest
    else do
      let item ← projectNode dialect definitions stack item
      projectFields dialect definitions stack
        (if key = "const" then setKey projected "enum" (.arr [item]) else setKey projected key item) rest
  termination_by fields => (unresolved definitions stack, sizeOf fields)
  decreasing_by
    all_goals
      refine Prod.Lex.right _ ?_
      simp only [List.cons.sizeOf_spec, Prod.mk.sizeOf_spec]
      omega

end

/-- What is sent to a provider. -/
structure CompiledProviderSchema where
  dialect : ProviderSchemaDialect
  schemaBody : List (String × Js)
  canonicalJson : Bytes
  sha256 : Hash

/-- `compile_provider_schema`, from the decoded schema on. -/
def compileProviderSchema (env : Runtime) (dialect : ProviderSchemaDialect) (decoded : Js) :
    Except SchemaError CompiledProviderSchema :=
  match decoded with
  | .obj fields =>
    match (Js.get? fields "$defs").getD (.obj []) with
    | .obj definitions => do
      match ← projectNode dialect definitions [] decoded with
      | .obj projected =>
        let content := (Js.obj projected).canonicalJson.toUTF8.toList
        ensure (decide (2 ≤ content.length) && decide (content.length ≤ 1000000))
          ⟨"CompiledProviderSchema.canonical_json"⟩
        return ⟨dialect, projected, content, env.sha256 content⟩
      | _ => .error ⟨"结果 Schema 投影失败"⟩
    | _ => .error ⟨"结果 Schema 的 $defs 必须是对象"⟩
  | _ => .error ⟨"结果 Schema 根节点必须是对象"⟩

/-! ## Dictionaries -/

theorem get?_eq_none_iff {fields : List (String × Js)} {key : String} :
    Js.get? fields key = none ↔ key ∉ fields.map (·.1) := by
  unfold Js.get?
  rw [Option.map_eq_none_iff, List.find?_eq_none]
  simp only [List.mem_reverse, beq_iff_eq, List.mem_map, not_exists, not_and]

theorem get?_append (fields : List (String × Js)) (f : String × Js) (key : String) :
    Js.get? (fields ++ [f]) key = if f.1 = key then some f.2 else Js.get? fields key := by
  unfold Js.get?
  rw [List.reverse_append, List.reverse_singleton, List.singleton_append, List.find?_cons]
  by_cases h : f.1 = key
  · simp [h]
  · have hbeq : (f.1 == key) = false := by simpa using h
    rw [hbeq, if_neg h]

theorem get?_eq_some_iff {fields : List (String × Js)} (h : (fields.map (·.1)).Nodup) {key : String}
    {value : Js} : Js.get? fields key = some value ↔ (key, value) ∈ fields := by
  refine ⟨get?_mem, fun hmem => ?_⟩
  cases hget : Js.get? fields key with
  | none => exact absurd (List.mem_map.2 ⟨_, hmem, rfl⟩) (get?_eq_none_iff.1 hget)
  | some other =>
    have heq := List.inj_on_of_nodup_map h (get?_mem hget) hmem rfl
    rw [(Prod.mk.inj heq).2]

theorem mem_setKey {fields : List (String × Js)} {key : String} {value : Js} {f : String × Js}
    (h : f ∈ setKey fields key value) : f = (key, value) ∨ f ∈ fields := by
  unfold setKey at h
  split at h
  · obtain ⟨g, hg, rfl⟩ := List.mem_map.1 h
    split
    · exact .inl rfl
    · exact .inr hg
  · rw [List.mem_append, List.mem_singleton] at h
    exact h.symm

theorem setKey_of_not_mem {fields : List (String × Js)} {key : String} (value : Js)
    (h : key ∉ fields.map (·.1)) : setKey fields key value = fields ++ [(key, value)] := by
  refine if_neg ?_
  simpa using h

theorem get?_setKey (fields : List (String × Js)) (key : String) (value : Js) (k : String) :
    Js.get? (setKey fields key value) k = if key = k then some value else Js.get? fields k := by
  by_cases hany : key ∈ fields.map (·.1)
  · have hset : setKey fields key value =
        fields.map fun f => if f.1 = key then (key, value) else f := by
      refine if_pos ?_
      simpa using hany
    have hget (l : List (String × Js)) (hl : key = k → key ∈ l.map (·.1)) :
        Js.get? (l.map fun f => if f.1 = key then (key, value) else f) k =
          if key = k then some value else Js.get? l k := by
      induction l using List.reverseRecOn with
      | nil =>
        rw [if_neg fun h => absurd (hl h) (by simp)]
        rfl
      | append_singleton l f ih =>
        rw [List.map_append, List.map_singleton, get?_append, get?_append]
        by_cases hf : f.1 = key
        · subst hf
          by_cases hk : f.1 = k
          · simp [hk]
          · rw [if_pos rfl, if_neg hk, if_neg hk, if_neg hk, ih fun h => absurd h hk, if_neg hk]
        · rw [if_neg hf]
          by_cases hk : f.1 = k
          · have hne : key ≠ k := fun h => hf (hk.trans h.symm)
            rw [if_pos hk, if_neg hne, if_pos hk]
          · rw [if_neg hk, if_neg hk]
            refine ih fun h => ?_
            have hmem := hl h
            rw [List.map_append, List.mem_append] at hmem
            rcases hmem with hmem | hmem
            · exact hmem
            · simp only [List.map_cons, List.map_nil, List.mem_singleton] at hmem
              exact absurd hmem.symm hf
    rw [hset, hget fields fun _ => hany]
  · rw [setKey_of_not_mem value hany, get?_append]

/-! ## What the projection returns -/

section

variable {dialect : ProviderSchemaDialect} {definitions : Definitions} {stack : List String}

theorem projectNode_arr (items : List Js) : projectNode dialect definitions stack (.arr items) =
    (do return .arr (← projectItems dialect definitions stack items)) := by
  rw [projectNode]

theorem projectNode_plain {fields : List (String × Js)} (h : Js.get? fields "$ref" = none) :
    projectNode dialect definitions stack (.obj fields) =
      (do return .obj (closeObject dialect (← projectFields dialect definitions stack [] fields))) := by
  rw [projectNode]
  split
  · next heq => rw [h] at heq; cases heq
  · next heq => rw [h] at heq; cases heq
  · rfl

theorem projectNode_reference {fields : List (String × Js)} {reference : String} {resolved : Js}
    (h : Js.get? fields "$ref" = some (.str reference)) (hstack : reference ∉ stack)
    (hresolved : resolveReference reference definitions = .ok resolved) :
    projectNode dialect definitions stack (.obj fields) =
      projectNode dialect definitions (reference :: stack) resolved := by
  rw [projectNode]
  split
  · next heq =>
    rw [h] at heq
    cases heq
    rw [dif_neg hstack]
    split
    · next heq => rw [hresolved] at heq; cases heq
    · next heq => rw [hresolved] at heq; cases heq; rfl
  · next hother heq =>
    rw [h] at heq
    cases heq
    exact absurd rfl (hother reference)
  · next heq => rw [h] at heq; cases heq

/-- A reference that is not a text, that the walk is inside of or that has no definition. -/
theorem projectNode_stuck {fields : List (String × Js)} {value : Js}
    (h : Js.get? fields "$ref" = some value)
    (hstuck : ∀ reference, value = .str reference →
      reference ∈ stack ∨ ∃ e, resolveReference reference definitions = .error e) :
    ∃ e, projectNode dialect definitions stack (.obj fields) = .error e := by
  rw [projectNode]
  split
  · next reference heq =>
    rw [h, Option.some.injEq] at heq
    split
    · exact ⟨_, rfl⟩
    · next hstack =>
      obtain ⟨e, he⟩ := (hstuck reference heq).resolve_left hstack
      split
      · exact ⟨_, rfl⟩
      · next heq => rw [he] at heq; cases heq
  · exact ⟨_, rfl⟩
  · next heq => rw [h] at heq; cases heq

theorem projectItems_eq_ok {items out : List Js} :
    projectItems dialect definitions stack items = .ok out ↔
      List.Forall₂ (fun x y => projectNode dialect definitions stack x = .ok y) items out := by
  induction items generalizing out with
  | nil =>
    rw [projectItems, List.forall₂_nil_left_iff, Except.ok.injEq]
    exact eq_comm
  | cons item items ih =>
    rw [projectItems, bind_eq_ok, List.forall₂_cons_left_iff]
    refine exists_congr fun y => ?_
    rw [bind_eq_ok, ← exists_and_left]
    refine exists_congr fun ys => and_congr_right fun _ => and_congr ih ?_
    show Except.ok (y :: ys) = .ok out ↔ _
    rw [Except.ok.injEq]
    exact eq_comm

theorem projectItems_error_iff {items : List Js} :
    (∃ e, projectItems dialect definitions stack items = .error e) ↔
      ∃ x ∈ items, ∃ e, projectNode dialect definitions stack x = .error e := by
  induction items with
  | nil =>
    rw [projectItems]
    simp
  | cons item items ih =>
    rw [projectItems, List.exists_mem_cons_iff, ← ih]
    cases projectNode dialect definitions stack item with
    | error e => exact iff_of_true ⟨e, rfl⟩ (.inl ⟨e, rfl⟩)
    | ok y =>
      cases projectItems dialect definitions stack items with
      | error e => exact iff_of_true ⟨e, rfl⟩ (.inr ⟨e, rfl⟩)
      | ok ys =>
        refine iff_of_false ?_ ?_
        · rintro ⟨e, he⟩
          cases he
        · rintro (⟨e, he⟩ | ⟨e, he⟩)
          · cases he
          · cases he

theorem projectFields_error_iff {projected fields : List (String × Js)} :
    (∃ e, projectFields dialect definitions stack projected fields = .error e) ↔
      ∃ f ∈ fields, dialect.drops f.1 = false ∧
        ∃ e, projectNode dialect definitions stack f.2 = .error e := by
  induction fields generalizing projected with
  | nil =>
    rw [projectFields]
    simp
  | cons f fields ih =>
    obtain ⟨key, item⟩ := f
    rw [projectFields, List.exists_mem_cons_iff]
    cases hdrops : dialect.drops key with
    | true =>
      rw [if_pos rfl, ih]
      simp
    | false =>
      rw [if_neg (by simp)]
      cases projectNode dialect definitions stack item with
      | error e => exact iff_of_true ⟨e, rfl⟩ (.inl ⟨rfl, e, rfl⟩)
      | ok y =>
        refine (ih).trans (or_iff_right ?_).symm
        rintro ⟨-, e, he⟩
        cases he

/-- Neither an array nor an object. -/
def Js.isScalar : Js → Bool
  | .arr _ | .obj _ => false
  | _ => true

theorem projectNode_scalar {v : Js} (h : v.isScalar = true) :
    projectNode dialect definitions stack v = .ok v := by
  cases v with
  | arr items => cases h
  | obj fields => cases h
  | _ =>
    rw [projectNode]
    · simp
    · simp

/-- Where a result comes from. -/
theorem projectNode_eq_ok {v out : Js} (h : projectNode dialect definitions stack v = .ok out) :
    v.isScalar = true ∧ out = v ∨
    (∃ items ys, v = .arr items ∧ out = .arr ys ∧
      List.Forall₂ (fun x y => projectNode dialect definitions stack x = .ok y) items ys) ∨
    (∃ fields projected, v = .obj fields ∧ Js.get? fields "$ref" = none ∧
      out = .obj (closeObject dialect projected) ∧
      projectFields dialect definitions stack [] fields = .ok projected) ∨
    ∃ fields reference resolved, v = .obj fields ∧
      Js.get? fields "$ref" = some (.str reference) ∧ reference ∉ stack ∧
      resolveReference reference definitions = .ok resolved ∧
      projectNode dialect definitions (reference :: stack) resolved = .ok out := by
  cases v with
  | arr items =>
    rw [projectNode_arr, bind_eq_ok] at h
    obtain ⟨ys, hys, hout⟩ := h
    cases hout
    exact .inr (.inl ⟨items, ys, rfl, rfl, projectItems_eq_ok.1 hys⟩)
  | obj fields =>
    right
    right
    cases hget : Js.get? fields "$ref" with
    | none =>
      rw [projectNode_plain hget, bind_eq_ok] at h
      obtain ⟨projected, hprojected, hout⟩ := h
      cases hout
      exact .inl ⟨fields, projected, rfl, hget, rfl, hprojected⟩
    | some value =>
      by_cases hstuck : ∀ reference, value = .str reference →
          reference ∈ stack ∨ ∃ e, resolveReference reference definitions = .error e
      · obtain ⟨e, he⟩ := @projectNode_stuck dialect _ _ _ _ hget hstuck
        rw [he] at h
        cases h
      · push Not at hstuck
        obtain ⟨reference, rfl, hstack, hresolve⟩ := hstuck
        cases hresolved : resolveReference reference definitions with
        | error e => exact absurd hresolved (hresolve e)
        | ok resolved =>
          rw [projectNode_reference hget hstack hresolved] at h
          exact .inr ⟨fields, reference, resolved, rfl, hget, hstack, hresolved, h⟩
  | _ =>
    rw [projectNode_scalar rfl] at h
    cases h
    exact .inl ⟨rfl, rfl⟩

/-- An induction over what a walk meets below a value. -/
theorem walk_induction {P : List String → Js → Prop} (definitions : Definitions)
    (step : ∀ stack v, (∀ items, v = .arr items → ∀ x ∈ items, P stack x) →
      (∀ fields, v = .obj fields → ∀ f ∈ fields, P stack f.2) →
      (∀ reference resolved, reference ∉ stack →
        resolveReference reference definitions = .ok resolved → P (reference :: stack) resolved) →
      P stack v) (stack : List String) (v : Js) : P stack v := by
  refine step stack v (fun items hv x hx => ?_) (fun fields hv f hf => ?_)
    fun reference resolved hstack hresolved => ?_
  · exact walk_induction definitions step stack x
  · exact walk_induction definitions step stack f.2
  · exact walk_induction definitions step (reference :: stack) resolved
  termination_by (unresolved definitions stack, sizeOf v)
  decreasing_by
    · have := List.sizeOf_lt_of_mem hx
      refine Prod.Lex.right _ ?_
      rw [hv, Js.arr.sizeOf_spec]
      omega
    · have hlt := List.sizeOf_lt_of_mem hf
      obtain ⟨k, w⟩ := f
      refine Prod.Lex.right _ ?_
      show sizeOf w < sizeOf v
      rw [Prod.mk.sizeOf_spec] at hlt
      rw [hv, Js.obj.sizeOf_spec]
      omega
    · exact Prod.Lex.left _ _ (unresolved_lt hstack hresolved)

/-! ## Keys of a projection -/

/-- A key that no projection has. -/
def ProviderSchemaDialect.supports (dialect : ProviderSchemaDialect) (key : String) : Prop :=
  dialect.drops key = false ∧ key ≠ "const" ∧ key ≠ "$ref"

/-- Every object in a value has supported keys only. -/
inductive Supported (dialect : ProviderSchemaDialect) : Js → Prop where
  | scalar {v : Js} (h : v.isScalar = true) : Supported dialect v
  | arr {items : List Js} (h : ∀ x ∈ items, Supported dialect x) : Supported dialect (.arr items)
  | obj {fields : List (String × Js)} (hkeys : ∀ f ∈ fields, dialect.supports f.1)
      (h : ∀ f ∈ fields, Supported dialect f.2) : Supported dialect (.obj fields)

theorem projectFields_mem {projected fields out : List (String × Js)}
    (h : projectFields dialect definitions stack projected fields = .ok out) :
    ∀ g ∈ out, g ∈ projected ∨ ∃ f ∈ fields, dialect.drops f.1 = false ∧
      ∃ y, projectNode dialect definitions stack f.2 = .ok y ∧
        (f.1 ≠ "const" ∧ g = (f.1, y) ∨ g = ("enum", .arr [y])) := by
  induction fields generalizing projected with
  | nil =>
    rw [projectFields] at h
    cases h
    exact fun g hg => .inl hg
  | cons f fields ih =>
    obtain ⟨key, item⟩ := f
    rw [projectFields] at h
    intro g hg
    split at h
    · rcases ih h g hg with hold | ⟨f, hf, hrest⟩
      · exact .inl hold
      · exact .inr ⟨f, List.mem_cons_of_mem _ hf, hrest⟩
    · next hdrops =>
      obtain ⟨y, hy, h⟩ := bind_eq_ok.1 h
      have hnew : dialect.drops key = false := by simpa using hdrops
      rcases ih h g hg with hold | ⟨f, hf, hrest⟩
      · split at hold
        · rcases mem_setKey hold with rfl | hold
          · exact .inr ⟨_, List.mem_cons_self, hnew, y, hy, .inr rfl⟩
          · exact .inl hold
        · next hconst =>
          rcases mem_setKey hold with rfl | hold
          · exact .inr ⟨_, List.mem_cons_self, hnew, y, hy, .inl ⟨hconst, rfl⟩⟩
          · exact .inl hold
      · exact .inr ⟨f, List.mem_cons_of_mem _ hf, hrest⟩

theorem mem_closeObject {projected : List (String × Js)} {g : String × Js}
    (h : g ∈ closeObject dialect projected) :
    g ∈ projected ∨ g = ("additionalProperties", .bool false) ∨
      ∃ names : List String, g = ("required", .arr (names.map .str)) := by
  unfold closeObject at h
  split at h
  · next properties _ _ =>
    rcases mem_setKey h with rfl | h
    · exact .inr (.inl rfl)
    · rcases mem_setKey h with rfl | h
      · refine .inr (.inr ⟨properties.map (·.1), ?_⟩)
        rw [List.map_map]
        rfl
      · exact .inl h
  · exact .inl h

theorem supports_literal {key : String} (h : key ∈ ["enum", "required", "additionalProperties"]) :
    dialect.supports key := by
  cases dialect <;> revert key <;> unfold ProviderSchemaDialect.supports <;> decide

theorem supported_projectNode {v out : Js} (h : projectNode dialect definitions stack v = .ok out) :
    Supported dialect out := by
  induction stack, v using walk_induction definitions generalizing out with
  | step stack v hitems hfields hreference =>
    rcases projectNode_eq_ok h with ⟨hscalar, rfl⟩ | ⟨items, ys, rfl, rfl, hys⟩ |
      ⟨fields, projected, rfl, href, rfl, hprojected⟩ |
      ⟨fields, reference, resolved, rfl, -, hstack, hresolved, hout⟩
    · exact .scalar hscalar
    · refine .arr fun y hy => ?_
      obtain ⟨x, hx, hxy⟩ := Table.exists_of_forall₂ hys hy
      exact hitems items rfl x hx hxy
    · have hall : ∀ g ∈ closeObject dialect projected, dialect.supports g.1 ∧ Supported dialect g.2 := by
        intro g hg
        rcases mem_closeObject hg with hg | rfl | ⟨names, rfl⟩
        · rcases projectFields_mem hprojected g hg with hg | ⟨f, hf, hdrops, y, hy, hg⟩
          · cases hg
          · have hy' := hfields fields rfl f hf hy
            rcases hg with ⟨hconst, rfl⟩ | rfl
            · refine ⟨⟨hdrops, hconst, fun heq => ?_⟩, hy'⟩
              exact get?_eq_none_iff.1 href (List.mem_map.2 ⟨f, hf, heq⟩)
            · exact ⟨supports_literal (by simp), .arr (by simpa using hy')⟩
        · exact ⟨supports_literal (by simp), .scalar rfl⟩
        · refine ⟨supports_literal (by simp), .arr fun x hx => ?_⟩
          obtain ⟨name, -, rfl⟩ := List.mem_map.1 hx
          exact .scalar rfl
      exact .obj (fun g hg => (hall g hg).1) fun g hg => (hall g hg).2
    · exact hreference reference resolved hstack hresolved hout

end

/-- What is compiled is the canonical text of the projection of the whole schema. -/
theorem compileProviderSchema_eq_ok {env : Runtime} {dialect : ProviderSchemaDialect} {decoded : Js}
    {compiled : CompiledProviderSchema} (h : compileProviderSchema env dialect decoded = .ok compiled) :
    ∃ fields definitions, decoded = .obj fields ∧
      (Js.get? fields "$defs").getD (.obj []) = .obj definitions ∧
      projectNode dialect definitions [] decoded = .ok (.obj compiled.schemaBody) ∧
      compiled.canonicalJson = (Js.obj compiled.schemaBody).canonicalJson.toUTF8.toList ∧
      Supported dialect (.obj compiled.schemaBody) := by
  unfold compileProviderSchema at h
  split at h
  · next fields =>
    split at h
    · next definitions hdefinitions =>
      obtain ⟨out, hout, h⟩ := bind_eq_ok.1 h
      split at h
      · next projected =>
        obtain ⟨-, -, h⟩ := bind_eq_ok.1 h
        cases h
        exact ⟨fields, definitions, rfl, hdefinitions, hout, rfl, supported_projectNode hout⟩
      · cases h
    · cases h
  · cases h

end PaperGrading
