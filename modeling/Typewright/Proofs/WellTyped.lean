import Typewright.Proofs.Typing

/-! # Emitted bodies are well typed

The functions of an artifact that mention no type but the artifact itself are well typed wherever its name stands for
it; the setters are well typed as they are written down. So every artifact is well typed as written down unless it is
shadowed. The constructor of a shadowed one has no type at all: it lists the logical name of a resource, where a
property type can have no field of a plain text. The struct fields that it should list are those that are declared. -/

namespace Typewright.Typing

open Emission

/-! ### Pieces of bodies -/

section Pieces
variable {c : Context} {m : Member} {b : Body}

theorem HasType.boxedIf (hb : HasType c b (.ofField c.bundle m.type)) : HasType c (boxedIf m b) (.held c.bundle m) := by
  rw [Emission.boxedIf, Ty.held]
  split
  · exact .boxed hb
  · exact hb

theorem names_slots (bundle : Bundle) (a : Artifact) : (slots bundle a).map (·.1) = a.fieldNames := by
  rw [slots, map_withIdentity, List.map_map]
  rfl

theorem mem_slots_of_mem {a : Artifact} (bundle : Bundle) (hm : m ∈ a.data.members) :
    (m.name, Ty.ofMember bundle m) ∈ slots bundle a :=
  mem_withIdentity.mpr (Or.inr (List.mem_map.mpr ⟨m, hm, rfl⟩))

theorem HasType.assignTo {a : Artifact} (ha : c.receiver = some a) (hm : m ∈ a.data.members)
    (hb : HasType c b (.held c.bundle m)) : HasType c (assignTo m b) (.builder a.id) := by
  refine .assign ha (mem_slots_of_mem c.bundle hm) ?_
  rw [Ty.ofMember]
  split
  · exact hb
  · exact .present hb

/-- Raw values that are wrapped are of the type that they are wrapped into. -/
theorem HasType.wrapAs {t : FieldType} (ht : t.isWrappedScalar = true)
    (hb : HasType c b (.ofField c.bundle t.unwrapped)) :
    HasType c (wrapAs t b) (.ofField c.bundle t) := by
  cases t with
  | value s => exact .wrap hb
  | list item =>
    cases item with
    | value s => exact .wrapEach hb
    | _ => cases ht
  | map item =>
    cases item with
    | value s => exact .wrapValues hb
    | _ => cases ht
  | _ => cases ht

theorem forall₂_withIdentity {α β : Type} {R : α → β → Prop} {resource : Bool} {x x' : α} {xs : List α} {y y' : β}
    {ys : List β} (hbefore : resource = true → R x y) (hinner : List.Forall₂ R xs ys)
    (hbehind : resource = true → R x' y') :
    List.Forall₂ R (withIdentity resource x xs x') (withIdentity resource y ys y') := by
  cases resource with
  | false => exact hinner
  | true => exact .cons (hbefore rfl) (List.rel_append hinner (.cons (hbehind rfl) .nil))

/-- A construction is typed if the identity and every member are. -/
theorem forall₂_fieldsWith {a : Artifact} {identity : String → Body} {value : Member → Body}
    (hlogical : a.isResource = true → HasType c (identity logicalName) .text)
    (hvalue : ∀ m ∈ a.data.members, HasType c (value m) (.ofMember c.bundle m))
    (hdepends : a.isResource = true → HasType c (identity dependsOn) .dependencies) :
    List.Forall₂ (HasType c) ((fieldsWith a.data.members a.isResource identity value).map (·.2))
      ((slots c.bundle a).map (·.2)) := by
  rw [fieldsWith, slots, map_withIdentity, map_withIdentity, List.map_map, List.map_map]
  refine forall₂_withIdentity hlogical ?_ hdepends
  rw [List.forall₂_map_left_iff, List.forall₂_map_right_iff, List.forall₂_same]
  exact hvalue

theorem exists_types {bundle : Bundle} {params : List Param}
    (h : ∀ p ∈ params, (Ty.ofParam? bundle p.type).isSome = true) :
    ∃ Ts : List Ty, params.map (fun p => Ty.ofParam? bundle p.type) = Ts.map some := by
  induction params with
  | nil => exact ⟨[], rfl⟩
  | cons p ps ih =>
    obtain ⟨T, hT⟩ := Option.isSome_iff_exists.mp (h p List.mem_cons_self)
    obtain ⟨Ts, hTs⟩ := ih fun q hq => h q (List.mem_cons_of_mem _ hq)
    exact ⟨T :: Ts, by rw [List.map_cons, hT, hTs]; rfl⟩

/-- Parameters that are passed on are passed on with their types. -/
theorem forall₂_paramBodies {params : List Param} (hparams : ∀ p ∈ params, p ∈ c.params) :
    ∀ {Ts : List Ty}, params.map (fun p => Ty.ofParam? c.bundle p.type) = Ts.map some →
      List.Forall₂ (HasType c) (paramBodies params) Ts := by
  induction params with
  | nil =>
    intro Ts hTs
    cases Ts with
    | nil => exact .nil
    | cons T Ts => cases hTs
  | cons p ps ih =>
    intro Ts hTs
    cases Ts with
    | nil => cases hTs
    | cons T Ts =>
      rw [List.map_cons, List.map_cons, List.cons.injEq] at hTs
      exact .cons (.param (hparams p List.mem_cons_self) hTs.1)
        (ih (fun q hq => hparams q (List.mem_cons_of_mem _ hq)) hTs.2)

theorem isSome_ofParam?_of_mem {bundle : Bundle} {members : List Member} {resource : Bool} {p : Param}
    (hp : p ∈ requiredParams members resource) : (Ty.ofParam? bundle p.type).isSome = true := by
  rcases mem_withIdentity.mp hp with ⟨-, rfl | rfl⟩ | hmem
  · rfl
  · rfl
  · obtain ⟨m, -, rfl⟩ := List.mem_map.mp hmem
    rfl

theorem exists_types_requiredParams (bundle : Bundle) (members : List Member) (resource : Bool) :
    ∃ Ts : List Ty, (requiredParams members resource).map (fun p => Ty.ofParam? bundle p.type) = Ts.map some :=
  exists_types fun _ hp => isSome_ofParam?_of_mem hp

theorem nodup_concat_configure {params : List Param} (h : (params.map (·.name)).Nodup) {type : ParamType} :
    ((params ++ [(⟨configureName params, type⟩ : Param)]).map (·.name)).Nodup := by
  rw [List.map_append]
  refine h.append (List.nodup_singleton _) fun name hname hconfigure => ?_
  rw [List.mem_singleton.mp hconfigure] at hname
  exact freeName_not_mem _ _ hname

/-- A value that is made by a factory, a configuration step and the build method. -/
theorem HasType.builtBy {target step : String} {a : Artifact} {args : List Body} {Ts : List Ty}
    (ha : c.scope target = some a) (hstep : ⟨step, .configure target⟩ ∈ c.params)
    (hTs : a.factory.params.map (fun p => Ty.ofParam? c.bundle p.type) = Ts.map some)
    (hargs : List.Forall₂ (HasType c) args Ts) : HasType c (builtBy target args step) (.data a.id) :=
  .invokeBuild (.applyConfigure hstep ha (.invokeFactory ha hTs hargs))

end Pieces

/-! ### Functions of an artifact -/

section Functions
variable {schema : Schema} {config : Config} {table : MemberTable} {artifacts : Catalogue Artifact} {a : Artifact}
  {own : String → Option Artifact}

theorem underscored_ne {base name : String} {n k : Nat} {x : Char} (hbase : base.toList[n]? = some x)
    (hname : name.toList[n]? ≠ some x) : underscored base k ≠ name := by
  rintro rfl
  refine hname ?_
  rw [underscored, String.toList_append, List.getElem?_append_left (List.getElem?_eq_some_iff.mp hbase).1]
  exact hbase

theorem ofField_ne_text (bundle : Bundle) {names : List String} {t : FieldType} (ht : Resolver.Resolved names t) :
    Ty.ofField bundle t ≠ .text := by
  cases ht with
  | value | values | valueMap | list => exact fun heq => nomatch heq
  | named =>
    rw [Ty.ofField]
    split <;> exact fun heq => nomatch heq

variable (h : Emits schema config table artifacts) (ha : a ∈ (Bundle.ofCatalogue artifacts).artifacts)
include h ha

/-- A member that is boxed holds a nested type directly. -/
theorem boxed_eq_false {m : Member} (hm : m ∈ a.data.members) (hnamed : m.type.named? = none) : m.boxed = false := by
  obtain ⟨members, -, heq⟩ := h.members_boxed ha
  rw [heq] at hm
  obtain ⟨m₀, -, rfl⟩ := List.mem_map.mp hm
  have hnamed : m₀.type.named? = none := hnamed
  change table.closesCycle table.containment a.id m₀ = false
  rw [MemberTable.closesCycle, hnamed]
  rfl

theorem mem_constructorParams_iff {p : Param} : p ∈ a.data.constructor.params ↔
    (a.isResource = true ∧ (p = ⟨logicalName, .logicalName⟩ ∨ p = ⟨dependsOn, .dependencies⟩)) ∨
      ∃ m ∈ a.data.members, ⟨m.name, if m.required then .value m.type else .optional m.type⟩ = p := by
  rw [(h.generated ha).constructor, dataConstructor, mem_withIdentity, List.mem_map]

theorem constructor_typed (hown : own a.typeName = some a) :
    FunctionTyped (.ofCatalogue artifacts) own none a.data.constructor (.data a.id) := by
  have hconstructor := (h.generated ha).constructor
  have hfields := (h.namesDistinct ha).nodup_fields
  have hparams := fun p => mem_constructorParams_iff (p := p) h ha
  constructor
  · rw [Callable.paramNames, hconstructor, dataConstructor, map_withIdentity, List.map_map]
    exact hfields
  · have hbody : a.data.constructor.body = .construct a.typeName (fieldsWith a.data.members a.isResource .param fun m =>
        if m.boxed && !m.required then .boxedOptional (.param m.name) else boxedIf m (.param m.name)) := by
      rw [hconstructor]
      rfl
    rw [hbody]
    refine .construct hown ?_ (forall₂_fieldsWith ?_ ?_ ?_)
    · rw [names_fieldsWith, names_slots]
      rfl
    · exact fun hres => .param ((hparams _).mpr (Or.inl ⟨hres, Or.inl rfl⟩)) rfl
    · intro m hm
      have hmem := (hparams _).mpr (Or.inr ⟨m, hm, rfl⟩)
      rw [Ty.ofMember]
      by_cases hrequired : m.required = true
      · simp only [hrequired, if_true, Bool.not_true, Bool.and_false, Bool.false_eq_true, if_false] at hmem ⊢
        exact .boxedIf (.param hmem rfl)
      · simp only [hrequired, if_false, Bool.false_eq_true, Bool.not_false, Bool.and_true] at hmem ⊢
        rw [Ty.held]
        split
        · exact .boxedOptional (.param hmem rfl)
        · rw [boxedIf, if_neg ‹_›]
          exact .param hmem rfl
    · exact fun hres => .param ((hparams _).mpr (Or.inl ⟨hres, Or.inr rfl⟩)) rfl

theorem builderConstructor_typed (hown : own a.typeName = some a) :
    FunctionTyped (.ofCatalogue artifacts) own none a.builder.constructor (.builder a.id) := by
  have hconstructor := (h.generated ha).builderConstructor
  constructor
  · rw [Callable.paramNames, hconstructor]
    exact (h.namesDistinct ha).nodup_requiredParams _ id
  · rw [hconstructor]
    refine .constructBuilder hown ?_ (forall₂_fieldsWith ?_ ?_ ?_)
    · rw [names_fieldsWith, names_slots]
      rfl
    · exact fun hres => .param (mem_withIdentity.mpr (Or.inl ⟨hres, Or.inl rfl⟩)) rfl
    · intro m hm
      rw [Ty.ofMember]
      by_cases hrequired : m.required = true
      · have hmem : valueParam m ∈ requiredParams a.data.members a.isResource :=
          mem_withIdentity.mpr (Or.inr (List.mem_map_of_mem (List.mem_filter.mpr ⟨hm, hrequired⟩)))
        simp only [hrequired, if_true]
        exact .boxedIf (.param hmem rfl)
      · simp only [hrequired, if_false, Bool.false_eq_true]
        exact .absent
    · exact fun hres => .param (mem_withIdentity.mpr (Or.inl ⟨hres, Or.inr rfl⟩)) rfl

theorem build_typed (hown : own a.typeName = some a) :
    FunctionTyped (.ofCatalogue artifacts) own (some a) a.builder.build (.data a.id) := by
  have hbuild := (h.generated ha).build
  constructor
  · rw [Callable.paramNames, hbuild]
    exact List.nodup_nil
  · rw [hbuild]
    refine .construct hown ?_ (forall₂_fieldsWith ?_ ?_ ?_)
    · rw [names_fieldsWith, names_slots]
      rfl
    · exact fun hres => .held rfl (mem_withIdentity.mpr (Or.inl ⟨hres, Or.inl rfl⟩))
    · exact fun m hm => .held rfl (mem_slots_of_mem _ hm)
    · exact fun hres => .held rfl (mem_withIdentity.mpr (Or.inl ⟨hres, Or.inr rfl⟩))

theorem factory_typed (hown : own a.typeName = some a) :
    FunctionTyped (.ofCatalogue artifacts) own none a.factory (.builder a.id) := by
  have hfactory := (h.generated ha).factory
  constructor
  · rw [Callable.paramNames, hfactory]
    exact (h.namesDistinct ha).nodup_requiredParams _ id
  · obtain ⟨Ts, hTs⟩ := exists_types_requiredParams (.ofCatalogue artifacts) a.data.members a.isResource
    rw [hfactory]
    refine .newBuilder hown ?_ (forall₂_paramBodies (fun p hp => hp) hTs)
    rw [(h.generated ha).builderConstructor]
    exact hTs

theorem accessor_typed {acc : Accessor} (hacc : acc ∈ a.data.accessors) :
    HasType ⟨.ofCatalogue artifacts, own, some a, []⟩ acc.body (.value .string) := by
  obtain ⟨hres, hbody⟩ := (h.generated ha).accessors acc hacc
  rw [hbody]
  exact .attributeRef rfl (mem_withIdentity.mpr (Or.inl ⟨hres, Or.inl rfl⟩))

/-- What is made in place for a member is of the type that the member holds. -/
theorem nestedSetter_typed {m : Member} (hm : m ∈ a.data.members) {target : String} {members : List Member}
    (htarget : m.type.named? = some target) (hmembers : table.boxCycles.properties.find? target = some members)
    (hdirect : directSetter m (setterName m.name) ∈ settersOf table.boxCycles m) :
    FunctionTyped (.ofCatalogue artifacts) (Source.denoted? (.ofCatalogue artifacts)) (some a)
      (nestedSetter m target members).callable (.builder a.id) := by
  obtain ⟨b, hb, hfind, hid, rfl, hparams⟩ := h.find?_of_properties hmembers
  have hfield : Ty.ofField (.ofCatalogue artifacts) m.type = .data b.id := by
    rw [eq_named_of_named? htarget, Ty.ofField, Bundle.denoted?, hfind, Option.map_some]
  obtain ⟨Ts, hTs⟩ := exists_types_requiredParams (.ofCatalogue artifacts) b.data.members false
  have hnodup := (h.namesDistinct hb).nodup_requiredMembers
  constructor
  · rw [Callable.paramNames, nestedSetter]
    exact nodup_concat_configure hnodup
  · refine .callSetter rfl ((h.namesDistinct ha).setter?_of_mem (h.mem_setters ha hm hdirect)) rfl ?_
    change HasType _ _ (.ofField (.ofCatalogue artifacts) m.type)
    rw [hfield]
    refine .builtBy ?_ (List.mem_append_right _ List.mem_cons_self) (hparams ▸ hTs)
      (forall₂_paramBodies (fun p hp => List.mem_append_left _ hp) hTs)
    rw [h.denoted?_source]
    exact hfind

/-- Of the setters only one that makes a value in place mentions a type: the one that its member holds. -/
theorem setter_typed {s : Setter} (hs : s ∈ a.builder.setters) : FunctionTyped (.ofCatalogue artifacts)
    (Source.denoted? (.ofCatalogue artifacts)) (some a) s.callable (.builder a.id) := by
  obtain ⟨m, hm, hsm⟩ := h.exists_member_of_setter ha hs
  rcases mem_settersOf hsm with ⟨hwrapped, rfl⟩ | ⟨name, rfl⟩ | ⟨target, members, htarget, hmembers, rfl, hdirect⟩
  · refine ⟨List.nodup_singleton _, .assignTo rfl hm ?_⟩
    have hnamed : m.type.named? = none := by
      cases htype : m.type with
      | named name =>
        rw [htype] at hwrapped
        cases hwrapped
      | _ => rfl
    rw [Ty.held, boxed_eq_false h ha hm hnamed]
    exact .wrapAs hwrapped (.param List.mem_cons_self rfl)
  · exact ⟨List.nodup_singleton _, .assignTo rfl hm (.boxedIf (.param List.mem_cons_self rfl))⟩
  · exact nestedSetter_typed h ha hm htarget hmembers hdirect

theorem propertyHelper_typed (hown : own a.typeName = some a) (hres : a.isResource = false) :
    FunctionTyped (.ofCatalogue artifacts) own none a.helper (.data a.id) := by
  have hhelper := (h.generated ha).helper
  rw [hres, if_neg Bool.false_ne_true] at hhelper
  obtain ⟨Ts, hTs⟩ := exists_types_requiredParams (.ofCatalogue artifacts) a.data.members false
  have hnodup := (h.namesDistinct ha).nodup_requiredMembers
  rw [hhelper]
  constructor
  · exact nodup_concat_configure hnodup
  · refine .builtBy hown (List.mem_append_right _ List.mem_cons_self) ?_
      (forall₂_paramBodies (fun p hp => List.mem_append_left _ hp) hTs)
    rw [(h.generated ha).factory, hres]
    exact hTs

/-- The parameters of the helper of a resource before the configuration step. -/
def registeredParams (a : Artifact) : List Param :=
  let required := requiredParams a.data.members false
  ⟨contextName required, .context⟩ :: required ++ [⟨logicalName, .optionalLogicalName⟩, ⟨dependsOn, .dependencies⟩]

theorem nodup_registeredParams (hres : a.isResource = true) : ((registeredParams a).map (·.name)).Nodup := by
  have hnames := h.namesDistinct ha
  have hrequired := hnames.nodup_requiredMembers
  have hsub : ∀ n ∈ (requiredParams a.data.members false).map (·.name), n ∈ a.data.members.map (·.name) := by
    rw [names_requiredParams]
    exact fun n hn => (List.filter_sublist.map _).subset hn
  obtain ⟨hne, hlogical, hdepends⟩ := hnames.not_mem_members hres
  have hfresh := freeName_not_mem "ctx" ((requiredParams a.data.members false).map (·.name))
  have hctx : ∀ name, name.toList[1]? ≠ some 't' → contextName (requiredParams a.data.members false) ≠ name :=
    fun name hname => underscored_ne (n := 1) (x := 't') rfl hname
  rw [registeredParams, List.cons_append, List.map_cons, List.map_append, List.nodup_cons, List.mem_append, not_or]
  refine ⟨⟨hfresh, ?_⟩, hrequired.append ?_ ?_⟩
  · rw [List.map_cons, List.map_singleton, List.mem_pair, not_or]
    exact ⟨hctx logicalName (by decide), hctx dependsOn (by decide)⟩
  · exact List.nodup_cons.mpr ⟨by simpa using hne, List.nodup_singleton _⟩
  · intro n hn hn'
    rcases List.mem_pair.mp hn' with rfl | rfl
    · exact hlogical (hsub _ hn)
    · exact hdepends (hsub _ hn)

omit h ha in
/-- The helper of a resource, its parameters and its body. -/
theorem helper_of_isResource (hgenerated : Generated config table a) (hres : a.isResource = true) :
    a.helper.params = registeredParams a ++ [⟨configureName (registeredParams a), .configure a.typeName⟩] ∧
      a.helper.body = .register (contextName (requiredParams a.data.members false))
        (builtBy a.typeName
          (.logicalNameOr (.param logicalName) (contextName (requiredParams a.data.members false))
              a.placement.className ::
            paramBodies (requiredParams a.data.members false) ++
              [.dependenciesOr (.param dependsOn) (contextName (requiredParams a.data.members false))])
          (configureName (registeredParams a))) := by
  rw [hgenerated.helper, hres, if_pos rfl]
  exact ⟨rfl, rfl⟩

omit h ha in
theorem params_factory_of_isResource (hgenerated : Generated config table a) (hres : a.isResource = true) :
    a.factory.params =
      ⟨logicalName, .logicalName⟩ :: requiredParams a.data.members false ++ [⟨dependsOn, .dependencies⟩] := by
  rw [hgenerated.factory, hres]
  rfl

omit h ha in
theorem id_of_isResource (hres : a.isResource = true) : a.id = ⟨.resource, a.typeName⟩ := by
  rw [Artifact.id]
  cases hkind : a.kind with
  | resource => rfl
  | property =>
    rw [Artifact.isResource, hkind] at hres
    cases hres

theorem nodup_helperParams (hres : a.isResource = true) : (a.helper.params.map (·.name)).Nodup := by
  rw [(helper_of_isResource (h.generated ha) hres).1]
  exact nodup_concat_configure (nodup_registeredParams h ha hres)

theorem resourceHelper_typed (hown : own a.typeName = some a) (hres : a.isResource = true) :
    FunctionTyped (.ofCatalogue artifacts) own none a.helper (.result a.id) := by
  have hid := id_of_isResource hres
  obtain ⟨Ts, hTs⟩ := exists_types_requiredParams (.ofCatalogue artifacts) a.data.members false
  obtain ⟨hparams, hbody⟩ := helper_of_isResource (h.generated ha) hres
  have hmem : ∀ p ∈ registeredParams a, p ∈ a.helper.params := fun p hp => hparams ▸ List.mem_append_left _ hp
  have hcontext : ⟨contextName (requiredParams a.data.members false), .context⟩ ∈ a.helper.params :=
    hmem _ List.mem_cons_self
  constructor
  · exact nodup_helperParams h ha hres
  · rw [hbody, hid]
    have hTs' : a.factory.params.map (fun p => Ty.ofParam? (.ofCatalogue artifacts) p.type) =
        (Ty.text :: Ts ++ [Ty.dependencies]).map some := by
      rw [params_factory_of_isResource (h.generated ha) hres, List.cons_append, List.map_cons, List.map_append, hTs]
      simp [Ty.ofParam?]
    refine .register hcontext (hid ▸ .builtBy hown ?_ hTs' ?_)
    · rw [hparams]
      exact List.mem_append_right _ List.mem_cons_self
    · refine .cons (.logicalNameOr hcontext (.param (hmem ⟨logicalName, .optionalLogicalName⟩ ?_) rfl)) (List.rel_append
        (forall₂_paramBodies (fun p hp => hmem p ?_) hTs)
        (.cons (.dependenciesOr hcontext (.param (hmem ⟨dependsOn, .dependencies⟩ ?_) rfl)) .nil))
      · exact List.mem_append_right _ List.mem_cons_self
      · exact List.mem_append_left _ (List.mem_cons_of_mem _ hp)
      · exact List.mem_append_right _ (List.mem_cons_of_mem _ List.mem_cons_self)

/-- Every artifact is well typed where its own name stands for it. -/
theorem wellTyped_of_own (hown : own a.typeName = some a) : WellTyped (.ofCatalogue artifacts) own a where
  nodup := by
    rw [names_slots]
    exact (h.namesDistinct ha).nodup_fields
  known := by
    intro m hm name hname
    rw [Bundle.denoted?, Option.isSome_map]
    exact h.isSome_find?_of_mem ((h.resolved_member ha hm).mem_of_mentioned hname)
  constructor := constructor_typed h ha hown
  accessors _ hacc := accessor_typed h ha hacc
  builderConstructor := builderConstructor_typed h ha hown
  setters _ hs := setter_typed h ha hs
  build := build_typed h ha hown
  factory := factory_typed h ha hown
  helper := by
    split
    · rename_i hres
      exact resourceHelper_typed h ha hown hres
    · rename_i hres
      exact propertyHelper_typed h ha hown (Bool.eq_false_iff.mpr hres)

theorem ofMember_ne_text {m : Member} (hm : m ∈ a.data.members) :
    Ty.ofMember (.ofCatalogue artifacts) m ≠ .text := by
  have hfield := ofField_ne_text (.ofCatalogue artifacts) (h.resolved_member ha hm)
  rw [Ty.ofMember, Ty.held]
  split
  · split
    · exact fun heq => nomatch heq
    · exact hfield
  · exact fun heq => nomatch heq

/-- The constructor of a shadowed artifact has no type as it is written down: what it gives for the logical name is a
    text, and it would have to go into a member of the property type. -/
theorem not_hasType_of_shadowed (hshadowed : Shadowed schema a) (T : Ty) :
    ¬ HasType ⟨.ofCatalogue artifacts, Source.denoted? (.ofCatalogue artifacts), none, a.data.constructor.params⟩
      a.data.constructor.body T := by
  have hres : a.isResource = true := by rw [Artifact.isResource, hshadowed.1, TypeKind.isResource]
  have hconstructor := (h.generated ha).constructor
  have hbody : a.data.constructor.body = .construct a.typeName ((logicalName, .param logicalName) ::
      (a.data.members.map fun m => (m.name, if m.boxed && !m.required then .boxedOptional (.param m.name)
        else boxedIf m (.param m.name))) ++ [(dependsOn, .param dependsOn)]) := by
    rw [hconstructor, hres]
    rfl
  obtain ⟨b, hb, hfind, hid⟩ := h.find?_of_shadowed hshadowed
  have hslots : slots (.ofCatalogue artifacts) b =
      b.data.members.map fun m => (m.name, Ty.ofMember (.ofCatalogue artifacts) m) := by
    have hkind : b.kind = .property := congrArg TypeId.kind hid
    rw [slots, Artifact.isResource, hkind]
    rfl
  rw [hbody]
  intro htyped
  cases htyped with
  | construct htarget hnames hvalues =>
    -- The target is the property type `b`, and the first thing it would be given is the logical name.
    have hdenoted : Source.denoted? (.ofCatalogue artifacts) a.typeName = some b := by rw [h.denoted?_source, hfind]
    obtain rfl := Option.some.inj (hdenoted.symm.trans htarget)
    rw [hslots] at hnames hvalues
    cases hmembers : b.data.members with
    | nil =>
      rw [hmembers] at hnames
      cases hnames
    | cons m ms =>
      rw [hmembers] at hnames hvalues
      have hname : logicalName = m.name := (List.cons.inj hnames).1
      obtain _ | ⟨hlogical, -⟩ := hvalues
      cases hlogical with
      | param hp hT =>
        have htext : Ty.ofMember (.ofCatalogue artifacts) m = .text := by
          rcases (mem_constructorParams_iff h ha).mp hp with ⟨-, heq | heq⟩ | ⟨m', hm', heq⟩
          · cases heq
            exact (Option.some.inj hT).symm
          · exact absurd (congrArg Param.name heq) ((h.namesDistinct ha).not_mem_members hres).1
          · exact absurd (congrArg Param.name heq) ((h.namesDistinct ha).identity hres m' hm').1
        exact ofMember_ne_text h hb (hmembers ▸ List.mem_cons_self) htext

/-- As it is written down, an artifact is well typed unless it is shadowed. -/
theorem wellTyped_source_iff : WellTyped (.ofCatalogue artifacts) (Source.denoted? (.ofCatalogue artifacts)) a ↔
    ¬ Shadowed schema a := by
  constructor
  · intro htyped hshadowed
    exact not_hasType_of_shadowed h ha hshadowed _ htyped.constructor.body
  · intro hnot
    refine wellTyped_of_own h ha ?_
    rw [h.denoted?_source]
    exact (h.find?_typeName_iff ha).mpr hnot

end Functions

end Typewright.Typing
