import PaperGrading.Providers.Schema

/-!
# Property names in a projected schema

A walk goes from place to place: into the items of an array, into the fields of an object and from a
reference to its definition.  What is meant treats the values of `properties` and the like as maps
from names to schemas and does not go into data; the code walks everything alike.

    a projection raises iff the code's walk meets a reference that is broken     (error_iff_broken)
    a map keeps its names iff none of them is taken for a keyword                       (keeps_iff)
    the projection does what is meant iff no property name is taken for a keyword and
      no other `$ref` changes what is broken                                        (projects_iff)
-/

namespace PaperGrading

variable {dialect : ProviderSchemaDialect} {definitions : Definitions} {stack : List String}

/-! ## Fields of a projection -/

/-- A key that does not follow keeps its value. -/
theorem get?_projectFields_of_not_mem {projected fields out : List (String × Js)}
    (h : projectFields dialect definitions stack projected fields = .ok out) {k : String}
    (hk : k ∉ fields.map (·.1)) (henum : k ≠ "enum") : Js.get? out k = Js.get? projected k := by
  induction fields generalizing projected with
  | nil =>
    rw [projectFields] at h
    cases h
    rfl
  | cons f fields ih =>
    obtain ⟨key, item⟩ := f
    rw [List.map_cons, List.mem_cons, not_or] at hk
    rw [projectFields] at h
    split at h
    · exact ih h hk.2
    · obtain ⟨y, -, h⟩ := bind_eq_ok.1 h
      rw [ih h hk.2]
      split
      · rw [get?_setKey, if_neg henum.symm]
      · rw [get?_setKey, if_neg (Ne.symm hk.1)]

theorem get?_projectFields {projected fields out : List (String × Js)}
    (h : projectFields dialect definitions stack projected fields = .ok out)
    (hnodup : (fields.map (·.1)).Nodup) {k : String} {x : Js} (hx : (k, x) ∈ fields)
    (hdrops : dialect.drops k = false) (hconst : k ≠ "const") (henum : k ≠ "enum") :
    ∃ y, projectNode dialect definitions stack x = .ok y ∧ Js.get? out k = some y := by
  induction fields generalizing projected with
  | nil => cases hx
  | cons f fields ih =>
    rw [List.map_cons, List.nodup_cons] at hnodup
    rcases List.mem_cons.1 hx with rfl | hrest
    · rw [projectFields, if_neg (by simp [hdrops])] at h
      simp only [if_neg hconst] at h
      obtain ⟨y, hy, h⟩ := bind_eq_ok.1 h
      refine ⟨y, hy, ?_⟩
      rw [get?_projectFields_of_not_mem h hnodup.1 henum, get?_setKey, if_pos rfl]
    · obtain ⟨key, item⟩ := f
      rw [projectFields] at h
      split at h
      · exact ih h hnodup.2 hrest
      · obtain ⟨y, -, h⟩ := bind_eq_ok.1 h
        exact ih h hnodup.2 hrest

/-- Names and schemas of a map and of its projection. -/
def KeepsFields (dialect : ProviderSchemaDialect) (definitions : Definitions) (stack : List String) :
    List (String × Js) → List (String × Js) → Prop :=
  List.Forall₂ fun m n => n.1 = m.1 ∧ projectNode dialect definitions stack m.2 = .ok n.2

theorem keeps_of_plain {projected fields out : List (String × Js)}
    (h : projectFields dialect definitions stack projected fields = .ok out)
    (hplain : ∀ f ∈ fields, dialect.supports f.1)
    (hnodup : ((projected ++ fields).map (·.1)).Nodup) :
    ∃ ns, out = projected ++ ns ∧ KeepsFields dialect definitions stack fields ns := by
  induction fields generalizing projected with
  | nil =>
    rw [projectFields] at h
    cases h
    exact ⟨[], (List.append_nil _).symm, .nil⟩
  | cons f fields ih =>
    obtain ⟨key, item⟩ := f
    rw [List.forall_mem_cons] at hplain
    rw [projectFields, if_neg (by simp [hplain.1.1])] at h
    simp only [if_neg hplain.1.2.1] at h
    obtain ⟨y, hy, h⟩ := bind_eq_ok.1 h
    have hfresh : key ∉ projected.map (·.1) := by
      rw [List.map_append, List.map_cons, List.nodup_middle, List.nodup_cons, List.mem_append,
        not_or] at hnodup
      exact hnodup.1.1
    rw [setKey_of_not_mem y hfresh] at h
    have hnodup' : (((projected ++ [(key, y)]) ++ fields).map (·.1)).Nodup := by
      simpa using hnodup
    obtain ⟨ns, rfl, hns⟩ := ih h hplain.2 hnodup'
    exact ⟨(key, y) :: ns, List.append_assoc _ _ _, .cons ⟨rfl, hy⟩ hns⟩

theorem get?_closeObject {projected : List (String × Js)} {k : String} (hrequired : k ≠ "required")
    (hadditional : k ≠ "additionalProperties") :
    Js.get? (closeObject dialect projected) k = Js.get? projected k := by
  unfold closeObject
  split
  · rw [get?_setKey, if_neg hadditional.symm, get?_setKey, if_neg hrequired.symm]
  · rfl

theorem closeObject_closed {projected properties : List (String × Js)} (hstrict : dialect.strict = true)
    (h : Js.get? projected "properties" = some (.obj properties)) :
    Js.get? (closeObject dialect projected) "required" =
        some (.arr (properties.map fun p => .str p.1)) ∧
      Js.get? (closeObject dialect projected) "additionalProperties" = some (.bool false) := by
  unfold closeObject
  rw [hstrict, h]
  dsimp only
  rw [get?_setKey, if_neg (by decide), get?_setKey, if_pos rfl, get?_setKey, if_pos rfl]
  exact ⟨rfl, rfl⟩

/-! ## Objects and schemas -/

/-- An object, if need be behind references. -/
inductive ResolvesToObject (definitions : Definitions) : Js → Prop where
  | plain {fields : List (String × Js)} (h : Js.get? fields "$ref" = none) :
      ResolvesToObject definitions (.obj fields)
  | reference {fields : List (String × Js)} {reference : String} {resolved : Js}
      (h : Js.get? fields "$ref" = some (.str reference))
      (hresolved : resolveReference reference definitions = .ok resolved)
      (hobject : ResolvesToObject definitions resolved) : ResolvesToObject definitions (.obj fields)

theorem isObject_iff {v out : Js} (h : projectNode dialect definitions stack v = .ok out) :
    (∃ gs, out = .obj gs) ↔ ResolvesToObject definitions v := by
  induction stack, v using walk_induction definitions generalizing out with
  | step stack v _ _ hreference =>
    rcases projectNode_eq_ok h with ⟨hscalar, rfl⟩ | ⟨items, ys, rfl, rfl, -⟩ |
      ⟨fields, projected, rfl, href, rfl, -⟩ | ⟨fields, reference, resolved, rfl, href, hstack, hresolved, hout⟩
    · refine iff_of_false ?_ ?_
      · rintro ⟨gs, rfl⟩
        cases hscalar
      · intro hobject
        cases hobject with
        | plain => cases hscalar
        | reference => cases hscalar
    · refine iff_of_false ?_ ?_
      · rintro ⟨gs, hgs⟩
        cases hgs
      · intro hobject
        cases hobject
    · exact iff_of_true ⟨_, rfl⟩ (.plain href)
    · rw [hreference reference resolved hstack hresolved hout]
      constructor
      · exact .reference href hresolved
      · intro hobject
        cases hobject with
        | plain hnone =>
          rw [href] at hnone
          cases hnone
        | reference href' hresolved' hobject =>
          rw [href] at href'
          cases href'
          rw [hresolved] at hresolved'
          cases hresolved'
          exact hobject

/-- A schema is an object or a truth value. -/
def Js.isSchema : Js → Bool
  | .obj _ | .bool _ => true
  | _ => false

theorem isSchema_projectNode (hdefinitions : ∀ d ∈ definitions, d.2.isSchema = true) {v out : Js}
    (hv : v.isSchema = true) (h : projectNode dialect definitions stack v = .ok out) :
    out.isSchema = true := by
  induction stack, v using walk_induction definitions generalizing out with
  | step stack v _ _ hreference =>
    rcases projectNode_eq_ok h with ⟨-, rfl⟩ | ⟨items, ys, rfl, -, -⟩ | ⟨fields, projected, rfl, -, rfl, -⟩ |
      ⟨fields, reference, resolved, rfl, -, hstack, hresolved, hout⟩
    · exact hv
    · cases hv
    · rfl
    · obtain ⟨name, -, hmem⟩ := resolveReference_eq_ok hresolved
      exact hreference reference resolved hstack hresolved (hdefinitions _ hmem) hout

/-! ## Maps of names -/

/-- No name is taken for a keyword. -/
def PlainNames (dialect : ProviderSchemaDialect) (definitions : Definitions)
    (names : List (String × Js)) : Prop :=
  ∀ m ∈ names, dialect.supports m.1 ∧
    (dialect.strict = true → m.1 = "properties" → ¬ResolvesToObject definitions m.2)

/-- **A map keeps its names and schemas iff no name is taken for a keyword.** -/
theorem keeps_iff (hdefinitions : ∀ d ∈ definitions, d.2.isSchema = true)
    {ms : List (String × Js)} (hnodup : (ms.map (·.1)).Nodup) (hms : ∀ m ∈ ms, m.2.isSchema = true)
    {out : Js} (h : projectNode dialect definitions stack (.obj ms) = .ok out) :
    (∃ ns, out = .obj ns ∧ KeepsFields dialect definitions stack ms ns) ↔
      PlainNames dialect definitions ms := by
  rcases projectNode_eq_ok h with ⟨hscalar, -⟩ | ⟨items, ys, hitems, -, -⟩ |
    ⟨fields, projected, hfields, href, rfl, hprojected⟩ | ⟨fields, reference, resolved, hfields, href, -⟩
  · cases hscalar
  · cases hitems
  · cases hfields
    constructor
    · rintro ⟨ns, hns, hkeeps⟩ m hm
      cases hns
      obtain ⟨n, hn, hname, hproject⟩ := Table.exists_of_forall₂ (List.Forall₂.flip hkeeps) hm
      refine ⟨?_, fun hstrict hproperties hobject => ?_⟩
      · cases supported_projectNode h with
        | scalar hscalar => cases hscalar
        | obj hkeys =>
          rw [← hname]
          exact hkeys n hn
      · -- the map is closed as if it were an object
        obtain ⟨name, x⟩ := m
        dsimp only at hproperties hobject
        subst hproperties
        obtain ⟨y, hy, hget⟩ := get?_projectFields hprojected hnodup hm
          (by revert hstrict; cases dialect <;> decide) (by decide) (by decide)
        obtain ⟨gs, rfl⟩ := (isObject_iff hy).2 hobject
        obtain ⟨m', hm', -, harr⟩ :=
          Table.exists_of_forall₂ hkeeps (get?_mem (closeObject_closed hstrict hget).1)
        exact absurd (isSchema_projectNode hdefinitions (hms m' hm') harr) (by simp [Js.isSchema])
    · intro hplain
      obtain ⟨ns, heq, hns⟩ := keeps_of_plain hprojected (fun m hm => (hplain m hm).1) hnodup
      rw [List.nil_append] at heq
      rw [← heq] at hns
      refine ⟨projected, ?_, hns⟩
      unfold closeObject
      split
      · next properties hstrict hget =>
        obtain ⟨m, hm, hname, hproject⟩ := Table.exists_of_forall₂ hns (get?_mem hget)
        exact absurd ((isObject_iff hproject).1 ⟨_, rfl⟩) ((hplain m hm).2 hstrict hname.symm)
      · rfl
  · cases hfields
    have hmem := get?_mem href
    have := hms _ hmem
    cases this

/-! ## Places -/

/-- How a value is read: as a schema, or as a map from names to schemas. -/
inductive SchemaKind where
  | schema
  | names
  deriving DecidableEq

structure Place where
  stack : List String
  kind : SchemaKind
  value : Js

/-- The keywords whose values are maps from names to schemas. -/
def mapKeywords : List String := ["properties", "patternProperties", "dependentSchemas"]

/-- The keywords whose values are schemas or arrays of them. -/
def schemaKeywords : List String :=
  ["items", "prefixItems", "contains", "additionalProperties", "propertyNames", "unevaluatedItems",
    "unevaluatedProperties", "allOf", "anyOf", "oneOf", "not", "if", "then", "else", "contentSchema"]

/-- The keywords of a schema and the names of a map; other keywords hold data. -/
def meant (dialect : ProviderSchemaDialect) : SchemaKind → String → Option SchemaKind
  | .schema, key =>
    if dialect.drops key then none
    else if key ∈ mapKeywords then some .names
    else if key ∈ schemaKeywords then some .schema
    else none
  | .names, _ => some .schema

/-- What the code goes into. -/
def walked (dialect : ProviderSchemaDialect) (_ : SchemaKind) (key : String) : Option SchemaKind :=
  if dialect.drops key then none else some .schema

theorem walked_eq_some {kind kind' : SchemaKind} {key : String} :
    walked dialect kind key = some kind' ↔ dialect.drops key = false ∧ kind' = .schema := by
  unfold walked
  cases dialect.drops key with
  | true => exact iff_of_false (fun h => by cases h) fun h => by cases h.1
  | false =>
    rw [if_neg (by decide), Option.some.injEq, and_iff_right rfl]
    exact eq_comm

theorem meant_schema_eq_some {kind : SchemaKind} {key : String} (h : meant dialect .schema key = some kind) :
    dialect.drops key = false ∧
      (key ∈ mapKeywords ∧ kind = .names ∨ key ∈ schemaKeywords ∧ kind = .schema) := by
  unfold meant at h
  dsimp only at h
  split at h
  · cases h
  · next hdrops =>
    refine ⟨by simpa using hdrops, ?_⟩
    split at h
    · next hmap =>
      cases h
      exact .inl ⟨hmap, rfl⟩
    · split at h
      · next hschema =>
        cases h
        exact .inr ⟨hschema, rfl⟩
      · cases h

inductive Step (next : SchemaKind → String → Option SchemaKind) (definitions : Definitions) :
    Place → Place → Prop where
  | item {stack : List String} {kind : SchemaKind} {items : List Js} {x : Js} (h : x ∈ items) :
      Step next definitions ⟨stack, kind, .arr items⟩ ⟨stack, kind, x⟩
  | field {stack : List String} {kind kind' : SchemaKind} {fields : List (String × Js)} {k : String}
      {x : Js} (href : kind = .schema → Js.get? fields "$ref" = none) (h : (k, x) ∈ fields)
      (hnext : next kind k = some kind') :
      Step next definitions ⟨stack, kind, .obj fields⟩ ⟨stack, kind', x⟩
  | reference {stack : List String} {fields : List (String × Js)} {reference : String} {resolved : Js}
      (href : Js.get? fields "$ref" = some (.str reference)) (hstack : reference ∉ stack)
      (hresolved : resolveReference reference definitions = .ok resolved) :
      Step next definitions ⟨stack, .schema, .obj fields⟩ ⟨reference :: stack, .schema, resolved⟩

abbrev Met (next : SchemaKind → String → Option SchemaKind) (definitions : Definitions) :
    Place → Place → Prop :=
  Relation.ReflTransGen (Step next definitions)

/-- A reference that is recursive, or that names no local definition. -/
def Place.BrokenAt (definitions : Definitions) (p : Place) : Prop :=
  p.kind = .schema ∧ ∃ fields value, p.value = .obj fields ∧ Js.get? fields "$ref" = some value ∧
    ∀ reference, value = .str reference →
      reference ∈ p.stack ∨ ∃ e, resolveReference reference definitions = .error e

def Broken (next : SchemaKind → String → Option SchemaKind) (definitions : Definitions) (p : Place) :
    Prop :=
  ∃ q, Met next definitions p q ∧ q.BrokenAt definitions

theorem broken_iff {next : SchemaKind → String → Option SchemaKind} {p : Place} :
    Broken next definitions p ↔
      p.BrokenAt definitions ∨ ∃ q, Step next definitions p q ∧ Broken next definitions q := by
  constructor
  · rintro ⟨q, hmet, hq⟩
    rcases hmet.cases_head with rfl | ⟨p', hstep, hmet⟩
    · exact .inl hq
    · exact .inr ⟨p', hstep, q, hmet, hq⟩
  · rintro (hp | ⟨p', hstep, q, hmet, hq⟩)
    · exact ⟨p, .refl, hp⟩
    · exact ⟨q, .head hstep hmet, hq⟩

theorem return_error_iff {ε α β : Type} {x : Except ε α} {f : α → β} :
    (∃ e, (do return f (← x) : Except ε β) = .error e) ↔ ∃ e, x = .error e := by
  cases x with
  | error e => exact iff_of_true ⟨e, rfl⟩ ⟨e, rfl⟩
  | ok a => exact iff_of_false (fun ⟨e, he⟩ => by cases he) fun ⟨e, he⟩ => by cases he

/-- **The code raises iff its walk meets a broken reference.** -/
theorem error_iff_broken (v : Js) :
    (∃ e, projectNode dialect definitions stack v = .error e) ↔
      Broken (walked dialect) definitions ⟨stack, .schema, v⟩ := by
  induction stack, v using walk_induction definitions with
  | step stack v hitems hfields hreference =>
    rw [broken_iff]
    cases v with
    | arr items =>
      have hnot : ¬Place.BrokenAt definitions ⟨stack, .schema, .arr items⟩ := by
        rintro ⟨-, fields, value, heq, -⟩
        cases heq
      rw [projectNode_arr, or_iff_right hnot]
      rw [return_error_iff, projectItems_error_iff]
      constructor
      · rintro ⟨x, hx, he⟩
        exact ⟨_, .item hx, (hitems items rfl x hx).1 he⟩
      · rintro ⟨q, hstep, hq⟩
        cases hstep with
        | item hx => exact ⟨_, hx, (hitems items rfl _ hx).2 hq⟩
    | obj fields =>
      cases hget : Js.get? fields "$ref" with
      | none =>
        have hnot : ¬Place.BrokenAt definitions ⟨stack, .schema, .obj fields⟩ := by
          rintro ⟨-, fields, value, heq, hsome, -⟩
          cases heq
          rw [hget] at hsome
          cases hsome
        rw [projectNode_plain hget, or_iff_right hnot, return_error_iff, projectFields_error_iff]
        constructor
        · rintro ⟨f, hf, hdrops, he⟩
          have hnext : walked dialect .schema f.1 = some .schema := walked_eq_some.2 ⟨hdrops, rfl⟩
          exact ⟨_, .field (fun _ => hget) hf hnext, (hfields fields rfl f hf).1 he⟩
        · rintro ⟨q, hstep, hq⟩
          cases hstep with
          | @field _ _ _ _ k x _ hf hnext =>
            obtain ⟨hdrops, rfl⟩ := walked_eq_some.1 hnext
            exact ⟨(k, x), hf, hdrops, (hfields fields rfl (k, x) hf).2 hq⟩
          | reference href => rw [hget] at href; cases href
      | some value =>
        by_cases hstuck : ∀ reference, value = .str reference →
            reference ∈ stack ∨ ∃ e, resolveReference reference definitions = .error e
        · exact iff_of_true (projectNode_stuck hget hstuck) (.inl ⟨rfl, fields, value, rfl, hget, hstuck⟩)
        · have hnot : ¬Place.BrokenAt definitions ⟨stack, .schema, .obj fields⟩ := by
            rintro ⟨-, fields, value', heq, hsome, hbroken⟩
            cases heq
            rw [hget] at hsome
            cases hsome
            exact hstuck hbroken
          push Not at hstuck
          obtain ⟨reference, rfl, hstack, hresolve⟩ := hstuck
          cases hresolved : resolveReference reference definitions with
          | error e => exact absurd hresolved (hresolve e)
          | ok resolved =>
            rw [projectNode_reference hget hstack hresolved, or_iff_right hnot,
              hreference reference resolved hstack hresolved]
            constructor
            · exact fun h => ⟨_, .reference hget hstack hresolved, h⟩
            · rintro ⟨q, hstep, hq⟩
              cases hstep with
              | field href =>
                rw [hget] at href
                cases href rfl
              | reference href _ hresolved' =>
                rw [hget] at href
                cases href
                rw [hresolved] at hresolved'
                cases hresolved'
                exact hq
    | _ =>
      rw [projectNode_scalar rfl]
      refine iff_of_false (fun ⟨e, he⟩ => by cases he) ?_
      rintro (⟨-, fields, value, heq, -⟩ | ⟨q, hstep, -⟩)
      · cases heq
      · cases hstep

/-! ## What is meant -/

/-- A JSON schema, as far as the places say: the keys of an object are unique, what stands for a
schema is one, and the maps are objects. -/
structure IsSchema (dialect : ProviderSchemaDialect) (definitions : Definitions) (root : Js) : Prop where
  definition : ∀ d ∈ definitions, d.2.isSchema = true
  unique : ∀ p, Met (meant dialect) definitions ⟨[], .schema, root⟩ p → ∀ fields,
    p.value = .obj fields → (fields.map (·.1)).Nodup
  names : ∀ p, Met (meant dialect) definitions ⟨[], .schema, root⟩ p → p.kind = .names →
    ∃ ms, p.value = .obj ms ∧ ∀ m ∈ ms, m.2.isSchema = true

/-- The projection of an object keeps the names of its maps, and is closed in a strict dialect. -/
structure KeepsObject (dialect : ProviderSchemaDialect) (definitions : Definitions)
    (stack : List String) (fields projected : List (String × Js)) : Prop where
  names : ∀ k ∈ mapKeywords, ∀ ms, Js.get? fields k = some (.obj ms) →
    ∃ ns, Js.get? projected k = some (.obj ns) ∧ KeepsFields dialect definitions stack ms ns
  closed : dialect.strict = true → ∀ ms, Js.get? fields "properties" = some (.obj ms) →
    Js.get? projected "required" = some (.arr (ms.map fun m => .str m.1)) ∧
      Js.get? projected "additionalProperties" = some (.bool false)

/-- What is promised of the projection: it raises on a broken reference, and otherwise returns a
schema without the unsupported keywords in which every object keeps its names.  An object with a
`$ref` stands for what it refers to: nothing is promised of keywords beside the reference, and the
projection drops them (`projectNode_reference`). -/
structure Projects (dialect : ProviderSchemaDialect) (definitions : Definitions) (root : Js) : Prop where
  raises : Broken (meant dialect) definitions ⟨[], .schema, root⟩ →
    ∃ e, projectNode dialect definitions [] root = .error e
  returns : ¬Broken (meant dialect) definitions ⟨[], .schema, root⟩ →
    ∃ out, projectNode dialect definitions [] root = .ok out ∧
      (∀ p, Met (meant dialect) [] ⟨[], .schema, out⟩ p → p.kind = .schema →
        ∀ fields, p.value = .obj fields → ∀ f ∈ fields, dialect.supports f.1) ∧
      ∀ p, Met (meant dialect) definitions ⟨[], .schema, root⟩ p → p.kind = .schema →
        ∀ fields, p.value = .obj fields → Js.get? fields "$ref" = none →
          ∃ projected, projectNode dialect definitions p.stack (.obj fields) = .ok (.obj projected) ∧
            KeepsObject dialect definitions p.stack fields projected

/-- No property name is taken for a keyword, and a `$ref` that is none changes nothing. -/
structure KeywordsApart (dialect : ProviderSchemaDialect) (definitions : Definitions) (root : Js) :
    Prop where
  references : Broken (walked dialect) definitions ⟨[], .schema, root⟩ ↔
    Broken (meant dialect) definitions ⟨[], .schema, root⟩
  names : ¬Broken (meant dialect) definitions ⟨[], .schema, root⟩ →
    ∀ p, Met (meant dialect) definitions ⟨[], .schema, root⟩ p → p.kind = .names →
      ∀ ms, p.value = .obj ms → PlainNames dialect definitions ms

/-- What is met as a supported value is supported. -/
theorem supported_of_met {p q : Place} (h : Met (meant dialect) [] p q)
    (hp : Supported dialect p.value) : Supported dialect q.value := by
  induction h with
  | refl => exact hp
  | tail _ hstep ih =>
    cases hstep with
    | item hx =>
      cases ih with
      | scalar hscalar => cases hscalar
      | arr hitems => exact hitems _ hx
    | field _ hx _ =>
      cases ih with
      | scalar hscalar => cases hscalar
      | obj _ hfields => exact hfields _ hx
    | reference _ _ hresolved =>
      obtain ⟨name, -, hmem⟩ := resolveReference_eq_ok hresolved
      cases hmem

section

variable {root : Js}

/-- Where the names are plain, the code walks what is meant. -/
theorem walked_of_meant
    (hnames : ∀ p, Met (meant dialect) definitions ⟨[], .schema, root⟩ p → p.kind = .names →
      ∀ ms, p.value = .obj ms → PlainNames dialect definitions ms)
    {p : Place} (h : Met (meant dialect) definitions ⟨[], .schema, root⟩ p) :
    Met (walked dialect) definitions ⟨[], .schema, root⟩ ⟨p.stack, .schema, p.value⟩ := by
  induction h with
  | refl => exact .refl
  | tail hmet hstep ih =>
    cases hstep with
    | item hx => exact ih.tail (.item hx)
    | @field _ kind _ fields k _ href hx hnext =>
      cases kind with
      | schema =>
        have hdrops := (meant_schema_eq_some hnext).1
        exact ih.tail (.field (fun _ => href rfl) hx (walked_eq_some.2 ⟨hdrops, rfl⟩))
      | names =>
        have hplain := hnames _ hmet rfl fields rfl
        cases hnext
        have hnone : Js.get? fields "$ref" = none := by
          rw [get?_eq_none_iff]
          intro hmem
          obtain ⟨m, hm, heq⟩ := List.mem_map.1 hmem
          exact (hplain m hm).1.2.2 heq
        exact ih.tail (.field (fun _ => hnone) hx (walked_eq_some.2 ⟨(hplain _ hx).1.1, rfl⟩))
    | reference href hstack hresolved => exact ih.tail (.reference href hstack hresolved)

/-- What is met where nothing is broken has a projection. -/
theorem projected_of_met (hsound : ¬Broken (walked dialect) definitions ⟨[], .schema, root⟩)
    {stack : List String} {v : Js}
    (h : Met (walked dialect) definitions ⟨[], .schema, root⟩ ⟨stack, .schema, v⟩) :
    ∃ out, projectNode dialect definitions stack v = .ok out := by
  cases hproject : projectNode dialect definitions stack v with
  | ok out => exact ⟨out, rfl⟩
  | error e =>
    obtain ⟨q, hmet, hq⟩ := (error_iff_broken v).1 ⟨e, hproject⟩
    exact absurd ⟨q, h.trans hmet, hq⟩ hsound

theorem mapKeyword_plain {k : String} (h : k ∈ mapKeywords) :
    dialect.drops k = false ∧ k ≠ "const" ∧ k ≠ "enum" ∧ k ≠ "required" ∧ k ≠ "additionalProperties" := by
  cases dialect <;> revert k <;> decide

theorem projectNode_plain_eq_ok {fields : List (String × Js)} (href : Js.get? fields "$ref" = none)
    {out : Js} (h : projectNode dialect definitions stack (.obj fields) = .ok out) :
    ∃ projected, out = .obj (closeObject dialect projected) ∧
      projectFields dialect definitions stack [] fields = .ok projected := by
  rw [projectNode_plain href, bind_eq_ok] at h
  obtain ⟨projected, hprojected, hout⟩ := h
  cases hout
  exact ⟨projected, rfl, hprojected⟩

/-- An object that is met is projected as is meant, where the names of its maps are plain. -/
theorem keepsObject (hschema : IsSchema dialect definitions root) {fields : List (String × Js)}
    (hmet : Met (meant dialect) definitions ⟨[], .schema, root⟩ ⟨stack, .schema, .obj fields⟩)
    (href : Js.get? fields "$ref" = none)
    (hnames : ∀ p, Met (meant dialect) definitions ⟨[], .schema, root⟩ p → p.kind = .names →
      ∀ ms, p.value = .obj ms → PlainNames dialect definitions ms)
    {out : Js} (hout : projectNode dialect definitions stack (.obj fields) = .ok out) :
    ∃ projected, out = .obj projected ∧ KeepsObject dialect definitions stack fields projected := by
  obtain ⟨projected, rfl, hprojected⟩ := projectNode_plain_eq_ok href hout
  have hnodup := hschema.unique _ hmet fields rfl
  have hkeeps : ∀ k ∈ mapKeywords, ∀ ms, Js.get? fields k = some (.obj ms) →
      ∃ ns, Js.get? projected k = some (.obj ns) ∧ KeepsFields dialect definitions stack ms ns := by
    intro k hk ms hget
    obtain ⟨hdrops, hconst, henum, -, -⟩ := @mapKeyword_plain dialect _ hk
    obtain ⟨y, hy, hyget⟩ := get?_projectFields hprojected hnodup (get?_mem hget) hdrops hconst henum
    have hnext : meant dialect .schema k = some .names := by
      unfold meant
      dsimp only
      rw [if_neg (by simp [hdrops]), if_pos hk]
    have hmap : Met (meant dialect) definitions ⟨[], .schema, root⟩ ⟨stack, .names, .obj ms⟩ :=
      hmet.tail (.field (fun _ => href) (get?_mem hget) hnext)
    obtain ⟨ms', heq, hms⟩ := hschema.names _ hmap rfl
    cases heq
    obtain ⟨ns, rfl, hns⟩ := (keeps_iff hschema.definition (hschema.unique _ hmap ms rfl) hms hy).2
      (hnames _ hmap rfl ms rfl)
    exact ⟨ns, hyget, hns⟩
  refine ⟨_, rfl, ?_, ?_⟩
  · intro k hk ms hget
    obtain ⟨-, -, -, hrequired, hadditional⟩ := @mapKeyword_plain dialect _ hk
    rw [get?_closeObject hrequired hadditional]
    exact hkeeps k hk ms hget
  · intro hstrict ms hget
    obtain ⟨ns, hns, hkeep⟩ := hkeeps "properties" (by decide) ms hget
    rw [(closeObject_closed hstrict hns).1, (closeObject_closed hstrict hns).2]
    have hsame : ns.map (fun n => Js.str n.1) = ms.map fun m => Js.str m.1 := by
      clear hns hget
      induction hkeep with
      | nil => rfl
      | cons hmn _ ih => rw [List.map_cons, List.map_cons, hmn.1, ih]
    rw [hsame]
    exact ⟨rfl, rfl⟩

/-- A map that is met belongs to an object that is met. -/
theorem names_of_met (hschema : IsSchema dialect definitions root) {ms : List (String × Js)}
    (h : Met (meant dialect) definitions ⟨[], .schema, root⟩ ⟨stack, .names, .obj ms⟩) :
    ∃ fields, Met (meant dialect) definitions ⟨[], .schema, root⟩ ⟨stack, .schema, .obj fields⟩ ∧
      Js.get? fields "$ref" = none ∧ ∃ k ∈ mapKeywords, Js.get? fields k = some (.obj ms) := by
  rcases h.cases_tail with heq | ⟨p, hmet, hstep⟩
  · cases heq
  · cases hstep with
    | item _ =>
      obtain ⟨ms', heq, -⟩ := hschema.names _ hmet rfl
      cases heq
    | @field _ kind _ fields k _ href hx hnext =>
      cases kind with
      | names => cases hnext
      | schema =>
        rcases (meant_schema_eq_some hnext).2 with ⟨hk, -⟩ | ⟨-, hkind⟩
        · exact ⟨fields, hmet, href rfl, k, hk, (get?_eq_some_iff (hschema.unique _ hmet fields rfl)).2 hx⟩
        · cases hkind

/-- **The projection does what is meant iff no property name is taken for a keyword, and no `$ref`
that is none changes which references are broken.** -/
theorem projects_iff (hschema : IsSchema dialect definitions root) :
    Projects dialect definitions root ↔ KeywordsApart dialect definitions root := by
  have herror := @error_iff_broken dialect definitions [] root
  constructor
  · intro h
    have hreferences : Broken (walked dialect) definitions ⟨[], .schema, root⟩ ↔
        Broken (meant dialect) definitions ⟨[], .schema, root⟩ := by
      rw [← herror]
      refine ⟨fun ⟨e, he⟩ => ?_, h.raises⟩
      by_contra hsound
      obtain ⟨out, hout, -⟩ := h.returns hsound
      rw [hout] at he
      cases he
    refine ⟨hreferences, fun hsound p hmet hkind ms hms => ?_⟩
    obtain ⟨stack, kind, value⟩ := p
    dsimp only at hkind hms
    subst hkind hms
    obtain ⟨-, -, -, hobjects⟩ := h.returns hsound
    obtain ⟨fields, hfields, href, k, hk, hget⟩ := names_of_met hschema hmet
    obtain ⟨projected, hprojected, hkeeps⟩ := hobjects _ hfields rfl fields rfl href
    obtain ⟨ns, hns, hkeep⟩ := hkeeps.names k hk ms hget
    obtain ⟨inner, heq, hinner⟩ := projectNode_plain_eq_ok href hprojected
    obtain ⟨hdrops, hconst, henum, hrequired, hadditional⟩ := @mapKeyword_plain dialect _ hk
    obtain ⟨y, hy, hyget⟩ := get?_projectFields hinner (hschema.unique _ hfields fields rfl)
      (get?_mem hget) hdrops hconst henum
    -- the projection of the map is what the object has
    rw [Js.obj.inj heq, get?_closeObject hrequired hadditional, hyget, Option.some.injEq] at hns
    obtain ⟨ms', heqms, hms⟩ := hschema.names _ hmet rfl
    cases heqms
    exact (keeps_iff hschema.definition (hschema.unique _ hmet ms rfl) hms hy).1 ⟨ns, hns, hkeep⟩
  · intro h
    refine ⟨fun hbroken => herror.2 (h.references.2 hbroken), fun hsound => ?_⟩
    have hwalked := mt h.references.1 hsound
    obtain ⟨out, hout⟩ := projected_of_met hwalked .refl
    refine ⟨out, hout, fun p hmet hkind fields hfields f hf => ?_, fun p hmet hkind fields hfields href => ?_⟩
    · have hsupported := supported_of_met hmet (supported_projectNode hout)
      rw [hfields] at hsupported
      cases hsupported with
      | scalar hscalar => cases hscalar
      | obj hkeys _ => exact hkeys f hf
    · obtain ⟨stack, kind, value⟩ := p
      dsimp only at hkind hfields
      subst hkind hfields
      obtain ⟨out', hout'⟩ := projected_of_met hwalked (walked_of_meant (h.names hsound) hmet)
      obtain ⟨projected, rfl, hkeeps⟩ := keepsObject hschema hmet href (h.names hsound) hout'
      exact ⟨projected, hout', hkeeps⟩

end

/-! ## Schemas -/

/-- Places that no step leaves are all that is met. -/
theorem mem_of_met {next : SchemaKind → String → Option SchemaKind} {l : List Place} {p q : Place}
    (hl : ∀ p ∈ l, ∀ q, Step next definitions p q → q ∈ l) (hp : p ∈ l)
    (h : Met next definitions p q) : q ∈ l := by
  induction h with
  | refl => exact hp
  | tail _ hstep ih => exact hl _ ih _ hstep

namespace Sample

/-- An object with a property named `const`. -/
def constProperty : Js := .obj [("properties", .obj [("const", .obj [])])]

theorem constProperty_met {q : Place}
    (h : Met (meant .openai) [] ⟨[], .schema, constProperty⟩ q) :
    q ∈ [⟨[], .schema, constProperty⟩, ⟨[], .names, .obj [("const", .obj [])]⟩,
      (⟨[], .schema, .obj []⟩ : Place)] := by
  refine mem_of_met (fun p hp q hstep => ?_) (by simp) h
  simp only [List.mem_cons, List.not_mem_nil, or_false] at hp
  rcases hp with rfl | rfl | rfl
  · cases hstep with
    | field _ hx hnext =>
      rw [List.mem_singleton] at hx
      cases hx
      cases hnext
      simp
    | reference href => cases href
  · cases hstep with
    | field _ hx hnext =>
      rw [List.mem_singleton] at hx
      cases hx
      cases hnext
      simp
  · cases hstep with
    | field _ hx => cases hx
    | reference href => cases href

theorem const_property_lost : ¬Projects .openai [] constProperty := by
  intro h
  have hsound : ¬Broken (meant .openai) [] ⟨[], .schema, constProperty⟩ := by
    rintro ⟨q, hmet, hkind, fields, value, hvalue, href, -⟩
    have hq := constProperty_met hmet
    simp only [List.mem_cons, List.not_mem_nil, or_false] at hq
    rcases hq with rfl | rfl | rfl
    · cases hvalue
      cases href
    · cases hkind
    · cases hvalue
      cases href
  obtain ⟨-, -, -, hobjects⟩ := h.returns hsound
  obtain ⟨projected, hprojected, hkeeps⟩ := hobjects _ .refl rfl _ rfl rfl
  obtain ⟨ns, hns, hkeep⟩ := hkeeps.names "properties" (by decide) _ rfl
  obtain ⟨n, hn, hname, -⟩ :=
    Table.exists_of_forall₂ (List.Forall₂.flip hkeep) (List.mem_singleton.2 rfl)
  -- no object of a projection has the key
  cases supported_projectNode hprojected with
  | scalar hscalar => cases hscalar
  | obj _ hfields =>
    cases hfields _ (get?_mem hns) with
    | scalar hscalar => cases hscalar
    | obj hkeys _ => exact (hkeys n hn).2.1 hname

/-- A property that is defined elsewhere. -/
def referringSchema : Js := .obj [("properties", .obj [("a", .obj [("$ref", .str "#/$defs/A")])])]

def textDefinition : Js := .obj [("type", .str "string")]

theorem referringSchema_isSchema : IsSchema .openai [("A", textDefinition)] referringSchema := by
  have hmem {q : Place}
      (h : Met (meant .openai) [("A", textDefinition)] ⟨[], .schema, referringSchema⟩ q) :
      q ∈ [⟨[], .schema, referringSchema⟩,
        ⟨[], .names, .obj [("a", .obj [("$ref", .str "#/$defs/A")])]⟩,
        ⟨[], .schema, .obj [("$ref", .str "#/$defs/A")]⟩,
        (⟨["#/$defs/A"], .schema, textDefinition⟩ : Place)] := by
    refine mem_of_met (fun p hp q hstep => ?_) (by simp) h
    simp only [List.mem_cons, List.not_mem_nil, or_false] at hp
    rcases hp with rfl | rfl | rfl | rfl
    · cases hstep with
      | field _ hx hnext =>
        rw [List.mem_singleton] at hx
        cases hx
        cases hnext
        simp
      | reference href => cases href
    · cases hstep with
      | field _ hx hnext =>
        rw [List.mem_singleton] at hx
        cases hx
        cases hnext
        simp
    · cases hstep with
      | field href => cases href rfl
      | reference href _ hresolved =>
        cases href
        cases hresolved
        simp
    · cases hstep with
      | field _ hx hnext =>
        rw [List.mem_singleton] at hx
        cases hx
        cases hnext
      | reference href => cases href
  refine ⟨by decide, fun p hp fields hfields => ?_, fun p hp hkind => ?_⟩
  · have hp := hmem hp
    simp only [List.mem_cons, List.not_mem_nil, or_false] at hp
    rcases hp with rfl | rfl | rfl | rfl <;> cases hfields <;> decide
  · have hp := hmem hp
    simp only [List.mem_cons, List.not_mem_nil, or_false] at hp
    rcases hp with rfl | rfl | rfl | rfl
    · cases hkind
    · exact ⟨_, rfl, by decide⟩
    · cases hkind
    · cases hkind

theorem referringSchema_projects : Projects .openai [("A", textDefinition)] referringSchema ↔
    KeywordsApart .openai [("A", textDefinition)] referringSchema :=
  projects_iff referringSchema_isSchema

end Sample

end PaperGrading
