import Typewright.Proofs.Refusals

/-! # Types that are not found

A body is written from left to right, and every type that it mentions is looked up where it stands. Where all names are
accepted nothing else can go wrong, so a body is written down if all types of `Body.mentionedTypes` are found, and
otherwise the text stops at the first of them that is not (`StopsAt`). -/

namespace Typewright.Source

/-! ### What is looked up -/

section Denoted
variable {bundle : Bundle} {name : String} {a : Artifact}

theorem mem_of_denoted? (h : denoted? bundle name = some a) : a ∈ bundle.artifacts := by
  have hmem := List.mem_of_find?_eq_some h
  rw [List.mem_append, List.mem_reverse, List.mem_reverse] at hmem
  exact List.mem_append.mpr hmem

/-- A name is found if and only if an artifact has it. -/
theorem isSome_denoted?_iff : (denoted? bundle name).isSome = true ↔ ∃ a ∈ bundle.artifacts, a.typeName = name := by
  simp only [denoted?, List.find?_isSome, List.mem_append, List.mem_reverse, beq_iff_eq, Bundle.artifacts]

theorem isNone_denoted?_iff : (denoted? bundle name).isNone = true ↔ ∀ a ∈ bundle.artifacts, a.typeName ≠ name := by
  rw [← Option.not_isSome, Bool.not_eq_true', ← Bool.not_eq_true, isSome_denoted?_iff]
  simp only [not_exists, not_and, ne_eq]

end Denoted

/-! ### Where writing stops -/

/-- What comes of writing while names of types are looked up, one after the other: the first one without an artifact is
    refused, and if there is none the text is finished. -/
def StopsAt {α : Type} (bundle : Bundle) (names : List String) (result : Except RenderError α) : Prop :=
  match names.find? fun name => (denoted? bundle name).isNone with
  | some name => result = .error (.unknownType name)
  | none => ∃ a, result = .ok a

namespace StopsAt
variable {α β : Type} {bundle : Bundle} {names names' : List String} {name : String} {x : Except RenderError α}
  {f : α → Except RenderError β}

theorem ok (a : α) : StopsAt bundle [] (.ok a : Except RenderError α) := ⟨a, rfl⟩

/-- The second part of a text is only reached if all types of the first part are found. -/
theorem bind (hx : StopsAt bundle names x) (hf : ∀ a, StopsAt bundle names' (f a)) :
    StopsAt bundle (names ++ names') (x >>= f) := by
  unfold StopsAt at hx ⊢
  rw [List.find?_append]
  cases hfirst : names.find? fun name => (denoted? bundle name).isNone with
  | some name =>
    rw [hfirst] at hx
    rw [hx]
    rfl
  | none =>
    rw [hfirst] at hx
    obtain ⟨a, rfl⟩ := hx
    exact hf a

theorem cons (hx : StopsAt bundle [name] x) (hf : ∀ a, StopsAt bundle names (f a)) :
    StopsAt bundle (name :: names) (x >>= f) := hx.bind hf

theorem map (hx : StopsAt bundle names x) (g : α → β) : StopsAt bundle names (x >>= fun a => .ok (g a)) := by
  have h := hx.bind fun a => ok (g a)
  rwa [List.append_nil] at h

/-- An accepted name does not stop the text. -/
theorem identifier (h : Accepted name) {f : String → Except RenderError β}
    (hf : ∀ word, StopsAt bundle names (f word)) : StopsAt bundle names (Source.identifier name >>= f) := by
  obtain ⟨word, hword⟩ := h
  rw [hword]
  exact hf word

theorem exists_ok_iff (h : StopsAt bundle names x) :
    (∃ a, x = .ok a) ↔ ∀ name ∈ names, ∃ a ∈ bundle.artifacts, a.typeName = name := by
  unfold StopsAt at h
  cases hfirst : names.find? fun name => (denoted? bundle name).isNone with
  | some name =>
    rw [hfirst] at h
    have hnone := List.find?_some hfirst
    have hmissing := isNone_denoted?_iff.mp hnone
    constructor
    · rintro ⟨a, ha⟩
      rw [h] at ha
      cases ha
    · intro hall
      obtain ⟨a, ha, hname⟩ := hall name (List.mem_of_find?_eq_some hfirst)
      exact absurd hname (hmissing a ha)
  | none =>
    rw [hfirst] at h
    refine ⟨fun _ name hname => ?_, fun _ => h⟩
    rw [← isSome_denoted?_iff, Option.isSome_iff_ne_none, ne_eq, ← Option.isNone_iff_eq_none]
    exact List.find?_eq_none.mp hfirst name hname

/-- An error is about the first name that no artifact has. -/
theorem of_error (h : StopsAt bundle names x) {e : RenderError} (he : x = .error e) :
    ∃ before name after, names = before ++ name :: after ∧ (∀ n ∈ before, ∃ a ∈ bundle.artifacts, a.typeName = n) ∧
      (∀ a ∈ bundle.artifacts, a.typeName ≠ name) ∧ e = .unknownType name := by
  unfold StopsAt at h
  cases hfirst : names.find? fun name => (denoted? bundle name).isNone with
  | some name =>
    rw [hfirst, he] at h
    obtain ⟨hmissing, before, after, hnames, hbefore⟩ := List.find?_eq_some_iff_append.mp hfirst
    refine ⟨before, name, after, hnames, fun n hn => ?_, isNone_denoted?_iff.mp hmissing, Except.error.inj h⟩
    rw [← isSome_denoted?_iff, ← Option.not_isNone]
    exact hbefore n hn
  | none =>
    rw [hfirst] at h
    obtain ⟨a, ha⟩ := h
    rw [he] at ha
    cases ha

end StopsAt

/-! ### Paths -/

/-- Every name that a path to the structs of a placement is made of can be written as an identifier. -/
structure AcceptedPlace (p : Placement) : Prop where
  modules : ∀ segment ∈ p.modulePath, Accepted segment
  className : Accepted p.className
  builderName : Accepted p.builderName

theorem AcceptedPlace.struct {p : Placement} (h : AcceptedPlace p) (role : Role) : Accepted (role.nameOf p) := by
  cases role with
  | data => exact h.className
  | builder => exact h.builderName

instance (name : String) : Decidable (Accepted name) :=
  decidable_of_iff ((identifier name).toOption.isSome = true) ⟨exists_eq_ok, fun ⟨_, h⟩ => h ▸ rfl⟩

section Bodies
variable {scope : Scope}

theorem exists_pathTo {a : Artifact} (h : AcceptedPlace a.placement) (role : Role) :
    ∃ path, scope.pathTo a (role.nameOf a.placement) = .ok path := by
  obtain ⟨item, hitem⟩ := h.struct role
  obtain ⟨modules, hmodules⟩ := exists_mapM_eq_pure h.modules
  rw [Scope.pathTo, hitem, hmodules]
  by_cases hhere : a.placement.modulePath = scope.path
  · exact ⟨⟨0, [], item⟩, if_pos hhere⟩
  · exact ⟨⟨scope.path.length, modules, item⟩, if_neg hhere⟩

theorem stopsAt_path (hplaces : ∀ a ∈ scope.bundle.artifacts, AcceptedPlace a.placement) (r : Reference) :
    StopsAt scope.bundle [r.target] (r.path scope) := by
  unfold StopsAt
  rw [List.find?_singleton]
  cases hfound : denoted? scope.bundle r.target with
  | some a =>
    rw [Reference.path_eq hfound]
    exact exists_pathTo (hplaces a (mem_of_denoted? hfound)) r.role
  | none =>
    obtain ⟨role, target⟩ := r
    have hmissing : scope.artifact target = .error (.unknownType target) := by rw [Scope.artifact, hfound]
    cases role with
    | data =>
      show scope.dataPath target = _
      rw [Scope.dataPath, hmissing]
      rfl
    | builder =>
      show scope.builderPath target = _
      rw [Scope.builderPath, hmissing]
      rfl

/-! ### Bodies -/

mutual

/-- What is written for a body looks types up in the order in which the body mentions them. -/
theorem stopsAt_expression (hpaths : ∀ r : Reference, StopsAt scope.bundle [r.target] (r.path scope)) :
    ∀ {b : Body}, (∀ name ∈ identifiersOf b, Accepted name) →
      StopsAt scope.bundle b.mentionedTypes (expression scope b)
  | .param name, h | .held name, h => by
    rw [identifiersOf] at h
    rw [expression, Body.mentionedTypes]
    exact .identifier (h name List.mem_cons_self) fun word => .ok _
  | .absent, _ | .attributeRef _, _ => by
    rw [expression, Body.mentionedTypes]
    exact .ok _
  | .wrap b, h | .wrapEach b, h | .wrapValues b, h | .boxed b, h | .boxedOptional b, h | .present b, h
  | .invokeBuild b, h => by
    rw [identifiersOf] at h
    rw [expression, Body.mentionedTypes]
    exact (stopsAt_expression hpaths h).map _
  | .construct target fields, h => by
    rw [identifiersOf] at h
    rw [expression, Body.mentionedTypes]
    exact (hpaths ⟨.data, target⟩).cons fun path => (stopsAt_fieldInits hpaths h).map _
  | .constructBuilder target fields, h => by
    rw [identifiersOf] at h
    rw [expression, Body.mentionedTypes]
    exact (hpaths ⟨.builder, target⟩).cons fun path => (stopsAt_fieldInits hpaths h).map _
  | .newBuilder target args, h => by
    rw [identifiersOf] at h
    rw [expression, Body.mentionedTypes]
    exact (hpaths ⟨.builder, target⟩).cons fun path => (stopsAt_expressions hpaths h).map _
  | .invokeFactory target args, h => by
    rw [identifiersOf] at h
    rw [expression, Body.mentionedTypes]
    exact (hpaths ⟨.data, target⟩).cons fun path => (stopsAt_expressions hpaths h).map _
  | .applyConfigure _ b, h | .callSetter _ b, h | .assign _ b, h | .register _ b, h => by
    rw [identifiersOf, List.forall_mem_cons] at h
    rw [expression, Body.mentionedTypes]
    exact .identifier h.1 fun word => (stopsAt_expression hpaths h.2).map _
  | .logicalNameOr b _ _, h | .dependenciesOr b _, h => by
    -- The context is written behind the value that it stands in for, and mentions no type.
    rw [identifiersOf, List.forall_mem_cons] at h
    rw [expression, Body.mentionedTypes, ← List.append_nil b.mentionedTypes]
    exact (stopsAt_expression hpaths h.2).bind fun code => .identifier h.1 fun word => .ok _

theorem stopsAt_fieldInits (hpaths : ∀ r : Reference, StopsAt scope.bundle [r.target] (r.path scope)) :
    ∀ {fields : List (String × Body)}, (∀ name ∈ identifiersInFields fields, Accepted name) →
      StopsAt scope.bundle (Body.mentionedInFields fields) (fieldInits scope fields)
  | [], _ => by
    rw [fieldInits, Body.mentionedInFields]
    exact .ok []
  | (name, b) :: fields, h => by
    rw [identifiersInFields, List.cons_append, List.forall_mem_cons, List.forall_mem_append] at h
    obtain ⟨hname, hbody, hfields⟩ := h
    have hrest := stopsAt_fieldInits hpaths hfields
    rw [fieldInits, Body.mentionedInFields]
    refine .identifier hname fun field => ?_
    by_cases hparam : b.isParam name = true
    · -- The value of a field that is written short is not written itself, but it mentions nothing.
      rw [if_pos hparam, ← targets_references, references_of_isParam hparam]
      exact hrest.map _
    · rw [if_neg hparam]
      exact (stopsAt_expression hpaths hbody).bind fun value => hrest.map _

theorem stopsAt_expressions (hpaths : ∀ r : Reference, StopsAt scope.bundle [r.target] (r.path scope)) :
    ∀ {args : List Body}, (∀ name ∈ identifiersInArgs args, Accepted name) →
      StopsAt scope.bundle (Body.mentionedInArgs args) (expressions scope args)
  | [], _ => by
    rw [expressions, Body.mentionedInArgs]
    exact .ok []
  | b :: args, h => by
    rw [identifiersInArgs, List.forall_mem_append] at h
    rw [expressions, Body.mentionedInArgs]
    exact (stopsAt_expression hpaths h.1).bind fun code => (stopsAt_expressions hpaths h.2).map _

end

theorem stopsAt_functionBody (hpaths : ∀ r : Reference, StopsAt scope.bundle [r.target] (r.path scope)) {b : Body}
    (h : ∀ name ∈ identifiersOf b, Accepted name) : StopsAt scope.bundle b.mentionedTypes (functionBody scope b) := by
  rw [functionBody.eq_def]
  split
  · rw [identifiersOf, List.forall_mem_cons] at h
    rw [Body.mentionedTypes]
    exact .identifier h.1 fun word => (stopsAt_expression hpaths h.2).map _
  · rw [identifiersOf, List.forall_mem_cons] at h
    rw [Body.mentionedTypes]
    exact .identifier h.1 fun word => (stopsAt_expression hpaths h.2).map _
  · exact stopsAt_expression hpaths h

end Bodies

/-- Where the names in a body and in the placements of all artifacts are accepted, the body is written down if and only
    if every type that it mentions has an artifact. If not, the error is about the first one, in reading order, that
    has none. -/
theorem written_unless_missing {scope : Scope} {b : Body} (hnames : ∀ name ∈ identifiersOf b, Accepted name)
    (hplaces : ∀ a ∈ scope.bundle.artifacts, AcceptedPlace a.placement) :
    ((∃ code, functionBody scope b = .ok code) ↔
        ∀ name ∈ b.mentionedTypes, ∃ a ∈ scope.bundle.artifacts, a.typeName = name) ∧
      ∀ e, functionBody scope b = .error e → ∃ before name after, b.mentionedTypes = before ++ name :: after ∧
        (∀ n ∈ before, ∃ a ∈ scope.bundle.artifacts, a.typeName = n) ∧
          (∀ a ∈ scope.bundle.artifacts, a.typeName ≠ name) ∧ e = .unknownType name ∧
            e.message = "generation error: reference to unknown type '" ++ name ++ "'" := by
  have hstops := stopsAt_functionBody (stopsAt_path hplaces) hnames
  refine ⟨hstops.exists_ok_iff, fun e he => ?_⟩
  obtain ⟨before, name, after, hmentioned, hbefore, hmissing, rfl⟩ := hstops.of_error he
  exact ⟨before, name, after, hmentioned, hbefore, hmissing, rfl, rfl⟩

/-- A body that mentions a type that is found and then two that are not. -/
def stray : Body :=
  .register "ctx" (.construct "Node" [("label", .param "label"),
    ("inner", .boxed (.applyConfigure "configure" (.invokeFactory "Leaf" [.param "label", .newBuilder "Bud" []])))])

theorem written_unless_missing_stray : ∃ bundle, Bundle.ofSchema Emission.twins {} = .ok bundle ∧
    (∀ name ∈ identifiersOf stray, Accepted name) ∧ (∀ a ∈ bundle.artifacts, AcceptedPlace a.placement) ∧
      functionBody ⟨["resource"], bundle, ⟨true, ["stackgen_core"]⟩⟩ stray = .error (.unknownType "Leaf") := by
  have hrun : ((Bundle.ofSchema Emission.twins {}).toOption.map
      fun bundle => bundle.artifacts.map fun a => (a.typeName, a.placement)) =
      some [("Node", ⟨"property", [], "Node"⟩), ("Node", ⟨"resource", [], "Node"⟩)] := by decide +kernel
  obtain ⟨bundle, hok, hartifacts⟩ := Option.map_eq_some_iff.mp hrun
  have hfound : ∀ a ∈ bundle.artifacts, a.typeName = "Node" ∧ AcceptedPlace a.placement := by
    intro a ha
    have hmem := List.mem_map_of_mem (f := fun a : Artifact => (a.typeName, a.placement)) ha
    rw [hartifacts, List.mem_cons, List.mem_singleton, Prod.mk.injEq, Prod.mk.injEq] at hmem
    rcases hmem with ⟨hname, hplace⟩ | ⟨hname, hplace⟩
    all_goals
      rw [hplace]
      exact ⟨hname, by decide +kernel, by decide +kernel, by decide +kernel⟩
  have hnames : ∀ name ∈ identifiersOf stray, Accepted name := by decide +kernel
  have hplaces : ∀ a ∈ bundle.artifacts, AcceptedPlace a.placement := fun a ha => (hfound a ha).2
  obtain ⟨hwritten, herror⟩ :=
    @written_unless_missing ⟨["resource"], bundle, ⟨true, ["stackgen_core"]⟩⟩ stray hnames hplaces
  refine ⟨bundle, eq_ok_of_toOption hok, hnames, hplaces, ?_⟩
  have hnode : ∃ a ∈ bundle.artifacts, a.typeName = "Node" := by
    obtain ⟨a, ha, hname⟩ := List.mem_map.mp (hartifacts ▸ List.mem_cons_self)
    exact ⟨a, ha, congrArg Prod.fst hname⟩
  have hmentioned : stray.mentionedTypes = ["Node", "Leaf", "Bud"] := by decide +kernel
  rw [hmentioned] at hwritten herror
  cases hbody : functionBody ⟨["resource"], bundle, ⟨true, ["stackgen_core"]⟩⟩ stray with
  | ok code =>
    obtain ⟨a, ha, hname⟩ := hwritten.mp ⟨code, hbody⟩ "Leaf" (by decide)
    rw [(hfound a ha).1] at hname
    exact absurd hname (by decide)
  | error e =>
    obtain ⟨before, name, after, hsplit, hbefore, hmissing, rfl, -⟩ := herror e hbody
    have hfirst : (before ++ name :: after).find? (· != "Node") = some name := by
      refine List.find?_eq_some_iff_append.mpr ⟨?_, before, after, rfl, fun n hn => ?_⟩
      · obtain ⟨a, ha, hnode⟩ := hnode
        exact bne_iff_ne.mpr fun hname => hmissing a ha (hnode.trans hname.symm)
      · obtain ⟨a, ha, rfl⟩ := hbefore n hn
        simp [(hfound a ha).1]
    rw [← hsplit] at hfirst
    cases hfirst
    rfl

end Typewright.Source
