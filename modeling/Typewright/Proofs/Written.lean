import Typewright.Proofs.Modules

/-! # What is written for references

A body mentions types by name, and so do the types of members and parameters. For every name that is mentioned a path
is found, and stands in what is written for it; the same holds of whole functions and of all that an artifact declares,
for which every function and every member is written. -/

namespace Typewright

/-- The functions of an artifact that take parameters. -/
def Artifact.callables (a : Artifact) : List Callable :=
  [a.data.constructor, a.factory, a.builder.constructor, a.builder.build, a.helper] ++
    a.builder.setters.map (·.callable)

namespace Source

/-! ### What bodies mention -/

/-- A type name that is written for one of the two structs of a type. -/
structure Reference where
  role : Role
  target : String
  deriving DecidableEq

mutual

/-- The references in a body, in reading order. -/
def references : Body → List Reference
  | .construct target fields => ⟨.data, target⟩ :: referencesInFields fields
  | .constructBuilder target fields => ⟨.builder, target⟩ :: referencesInFields fields
  | .newBuilder target args => ⟨.builder, target⟩ :: referencesInArgs args
  | .invokeFactory target args => ⟨.data, target⟩ :: referencesInArgs args
  | .wrap b | .wrapEach b | .wrapValues b | .boxed b | .boxedOptional b | .present b | .invokeBuild b => references b
  | .applyConfigure _ b | .callSetter _ b | .assign _ b | .register _ b => references b
  | .logicalNameOr b _ _ | .dependenciesOr b _ => references b
  | .param _ | .held _ | .absent | .attributeRef _ => []

def referencesInFields : List (String × Body) → List Reference
  | [] => []
  | (_, b) :: rest => references b ++ referencesInFields rest

def referencesInArgs : List Body → List Reference
  | [] => []
  | b :: rest => references b ++ referencesInArgs rest

end

/-- The references in the type of a parameter, as far as it is no type of values. -/
def stepReferences (p : Param) : List Reference :=
  match p.type with
  | .configure target => [⟨.builder, target⟩]
  | _ => []

def referencesOf (c : Callable) : List Reference := c.params.flatMap stepReferences ++ references c.body

/-- The references in the functions of an artifact other than its setters. -/
def ownReferences (a : Artifact) : List Reference :=
  [a.data.constructor, a.builder.constructor, a.builder.build, a.factory, a.helper].flatMap referencesOf

/-- The references in the type of a member. -/
def typeReferences (t : FieldType) : List Reference := t.mentioned?.toList.map (⟨.data, ·⟩)

/-- The references in the type of a parameter. -/
def paramReferences (p : Param) : List Reference :=
  match p.type with
  | .value t | .optional t => typeReferences t
  | .configure target => [⟨.builder, target⟩]
  | .logicalName | .optionalLogicalName | .dependencies | .context => []

/-- All references in a function. -/
def callableReferences (c : Callable) : List Reference := c.params.flatMap paramReferences ++ references c.body

/-- All references in an artifact. -/
def allReferences (a : Artifact) : List Reference :=
  (a.data.members.flatMap fun m => typeReferences m.type) ++ a.callables.flatMap callableReferences ++
    a.data.accessors.flatMap fun acc => references acc.body

/-- The path that is written for a reference. -/
def Reference.path (scope : Scope) (r : Reference) : Except RenderError ItemPath :=
  match r.role with
  | .data => scope.dataPath r.target
  | .builder => scope.builderPath r.target

theorem Reference.path_eq {scope : Scope} {r : Reference} {b : Artifact}
    (hb : denoted? scope.bundle r.target = some b) : r.path scope = scope.pathTo b (r.role.nameOf b.placement) := by
  rw [Reference.path]
  split
  · rename_i hrole
    rw [Scope.dataPath, Scope.artifact, hb, hrole]
    rfl
  · rename_i hrole
    rw [Scope.builderPath, Scope.artifact, hb, hrole]
    rfl

/-! ### Pieces of code -/

/-- `piece` stands in some code, possibly within brackets. -/
inductive Occurs (piece : Code) : Code → Prop
  | here (before after : Code) : Occurs piece (before ++ piece ++ after)
  | inside (before : Code) (d : Delimiter) {inner : Code} (after : Code) (h : Occurs piece inner) :
    Occurs piece (before ++ [.group d inner] ++ after)

namespace Occurs
variable {piece code : Code}

theorem append_right (h : Occurs piece code) (after : Code) : Occurs piece (code ++ after) := by
  cases h with
  | here before behind =>
    rw [List.append_assoc]
    exact .here before (behind ++ after)
  | inside before d behind h =>
    rw [List.append_assoc]
    exact .inside before d (behind ++ after) h

theorem append_left (h : Occurs piece code) (before : Code) : Occurs piece (before ++ code) := by
  cases h with
  | here ahead behind =>
    rw [List.append_assoc, ← List.append_assoc, ← List.append_assoc]
    exact .here (before ++ ahead) behind
  | inside ahead d behind h =>
    rw [List.append_assoc, ← List.append_assoc, ← List.append_assoc]
    exact .inside (before ++ ahead) d behind h

theorem group (h : Occurs piece code) (d : Delimiter) : Occurs piece [.group d code] := by
  simpa using Occurs.inside [] d [] h

theorem self (code : Code) : Occurs code code := by
  have h : Occurs code ([] ++ code ++ []) := .here [] []
  rwa [List.nil_append, List.append_nil] at h

theorem flatten {codes : List Code} (h : Occurs piece code) (hmem : code ∈ codes) : Occurs piece codes.flatten := by
  obtain ⟨before, after, rfl⟩ := List.append_of_mem hmem
  rw [List.flatten_append, List.flatten_cons]
  exact (h.append_right _).append_left _

theorem commas {codes : List Code} (h : Occurs piece code) (hmem : code ∈ codes) : Occurs piece (commas codes) := by
  obtain ⟨i, hi⟩ := List.mem_iff_getElem?.mp hmem
  refine h.flatten (List.mem_of_getElem? (i := 2 * i) ?_)
  rw [List.getElem?_intersperse_two_mul, hi]

theorem flatMap {α : Type} {items : List α} {f : α → Code} {a : α} (h : Occurs piece (f a)) (hmem : a ∈ items) :
    Occurs piece (items.flatMap f) :=
  h.flatten (List.mem_map_of_mem hmem)

theorem receiver (h : Occurs piece code) (name : String) (args : Code) : Occurs piece (method code name args) :=
  ((h.append_right _).append_right _).append_right _

theorem argument (h : Occurs piece code) (receiver : Code) (name : String) : Occurs piece (method receiver name code) :=
  (h.group _).append_left _

theorem assignment (h : Occurs piece code) (member : String) : Occurs piece (assignment member code) :=
  ((h.append_left _).append_right _).append_right _

theorem registration (h : Occurs piece code) (context : String) : Occurs piece (registration context code) :=
  ((h.append_left _).append_right _).append_right _

end Occurs

/-! ### Paths in bodies -/

/-- The path of a reference is found, and stands in some code. -/
def Written (scope : Scope) (code : Code) (r : Reference) : Prop := ∃ p, r.path scope = .ok p ∧ Occurs p.code code

namespace Written
variable {scope : Scope} {r : Reference} {code code' : Code}

theorem imp (h : Written scope code r) (himp : ∀ piece, Occurs piece code → Occurs piece code') :
    Written scope code' r := by
  obtain ⟨p, hp, hoccurs⟩ := h
  exact ⟨p, hp, himp _ hoccurs⟩

theorem here {p : ItemPath} (h : r.path scope = .ok p) (after : Code) : Written scope (p.code ++ after) r :=
  ⟨p, h, (Occurs.self _).append_right _⟩

end Written

theorem references_of_isParam {b : Body} {name : String} (h : b.isParam name) : references b = [] := by
  cases b with
  | param _ => rw [references]
  | _ => cases h

mutual

/-- What is written for a body has a path in it for every reference of the body. -/
theorem written_expression {scope : Scope} {r : Reference} : ∀ {b : Body} {code : Code},
    expression scope b = .ok code → r ∈ references b → Written scope code r
  | .param _, _, _, hr | .held _, _, _, hr | .absent, _, _, hr | .attributeRef _, _, _, hr => by
    rw [references] at hr
    cases hr
  | .wrap b, _, h, hr | .boxed b, _, h, hr | .present b, _, h, hr => by
    rw [references] at hr
    rw [expression] at h
    obtain ⟨inner, hinner, h⟩ := bind_eq_ok_iff.mp h
    cases h
    exact (written_expression hinner hr).imp fun _ ho => (ho.group _).append_left _
  | .wrapEach b, _, h, hr | .wrapValues b, _, h, hr => by
    rw [references] at hr
    rw [expression] at h
    obtain ⟨inner, hinner, h⟩ := bind_eq_ok_iff.mp h
    cases h
    exact (written_expression hinner hr).imp fun _ ho => ((ho.receiver _ _).receiver _ _).receiver _ _
  | .boxedOptional b, _, h, hr | .invokeBuild b, _, h, hr => by
    rw [references] at hr
    rw [expression] at h
    obtain ⟨inner, hinner, h⟩ := bind_eq_ok_iff.mp h
    cases h
    exact (written_expression hinner hr).imp fun _ ho => ho.receiver _ _
  | .construct target fields, _, h, hr | .constructBuilder target fields, _, h, hr => by
    rw [references] at hr
    rw [expression] at h
    obtain ⟨path, hpath, h⟩ := bind_eq_ok_iff.mp h
    obtain ⟨inits, hinits, h⟩ := bind_eq_ok_iff.mp h
    cases h
    rcases List.mem_cons.mp hr with rfl | hr
    · refine .here ?_ _
      exact hpath
    · obtain ⟨init, hmem, hwritten⟩ := written_fieldInits hinits hr
      exact hwritten.imp fun _ ho => ((ho.commas hmem).group _).append_left _
  | .newBuilder target args, _, h, hr | .invokeFactory target args, _, h, hr => by
    rw [references] at hr
    rw [expression] at h
    obtain ⟨path, hpath, h⟩ := bind_eq_ok_iff.mp h
    obtain ⟨codes, hcodes, h⟩ := bind_eq_ok_iff.mp h
    cases h
    rw [List.append_assoc]
    rcases List.mem_cons.mp hr with rfl | hr
    · refine .here ?_ _
      exact hpath
    · obtain ⟨code, hmem, hwritten⟩ := written_expressions hcodes hr
      exact hwritten.imp fun _ ho => (((ho.commas hmem).group _).append_left _).append_left _
  | .applyConfigure step b, _, h, hr => by
    rw [references] at hr
    rw [expression] at h
    obtain ⟨name, -, h⟩ := bind_eq_ok_iff.mp h
    obtain ⟨inner, hinner, h⟩ := bind_eq_ok_iff.mp h
    cases h
    exact (written_expression hinner hr).imp fun _ ho => (ho.group _).append_left _
  | .callSetter setter b, _, h, hr => by
    rw [references] at hr
    rw [expression] at h
    obtain ⟨name, -, h⟩ := bind_eq_ok_iff.mp h
    obtain ⟨inner, hinner, h⟩ := bind_eq_ok_iff.mp h
    cases h
    exact (written_expression hinner hr).imp fun _ ho => ho.argument _ _
  | .assign member b, _, h, hr => by
    rw [references] at hr
    rw [expression] at h
    obtain ⟨name, -, h⟩ := bind_eq_ok_iff.mp h
    obtain ⟨inner, hinner, h⟩ := bind_eq_ok_iff.mp h
    cases h
    exact (written_expression hinner hr).imp fun _ ho => (ho.assignment _).group _
  | .logicalNameOr b _ _, _, h, hr | .dependenciesOr b _, _, h, hr => by
    rw [references] at hr
    rw [expression] at h
    obtain ⟨inner, hinner, h⟩ := bind_eq_ok_iff.mp h
    obtain ⟨name, -, h⟩ := bind_eq_ok_iff.mp h
    cases h
    exact (written_expression hinner hr).imp fun _ ho => ho.receiver _ _
  | .register context b, _, h, hr => by
    rw [references] at hr
    rw [expression] at h
    obtain ⟨name, -, h⟩ := bind_eq_ok_iff.mp h
    obtain ⟨inner, hinner, h⟩ := bind_eq_ok_iff.mp h
    cases h
    exact (written_expression hinner hr).imp fun _ ho => (ho.registration _).group _

theorem written_fieldInits {scope : Scope} {r : Reference} : ∀ {fields : List (String × Body)} {inits : List Code},
    fieldInits scope fields = .ok inits → r ∈ referencesInFields fields → ∃ init ∈ inits, Written scope init r
  | [], _, _, hr => by
    rw [referencesInFields] at hr
    cases hr
  | (name, b) :: fields, _, h, hr => by
    rw [referencesInFields] at hr
    rw [fieldInits] at h
    obtain ⟨field, -, h⟩ := bind_eq_ok_iff.mp h
    split at h
    · rename_i hparam
      obtain ⟨inits, hinits, h⟩ := bind_eq_ok_iff.mp h
      cases h
      rcases List.mem_append.mp hr with hr | hr
      · -- A field that is written short is given a parameter, which mentions nothing.
        rw [references_of_isParam hparam] at hr
        cases hr
      · obtain ⟨init, hmem, hwritten⟩ := written_fieldInits hinits hr
        exact ⟨init, List.mem_cons_of_mem _ hmem, hwritten⟩
    · obtain ⟨value, hvalue, h⟩ := bind_eq_ok_iff.mp h
      obtain ⟨inits, hinits, h⟩ := bind_eq_ok_iff.mp h
      cases h
      rcases List.mem_append.mp hr with hr | hr
      · exact ⟨_, List.mem_cons_self, (written_expression hvalue hr).imp fun _ ho => ho.append_left _⟩
      · obtain ⟨init, hmem, hwritten⟩ := written_fieldInits hinits hr
        exact ⟨init, List.mem_cons_of_mem _ hmem, hwritten⟩

theorem written_expressions {scope : Scope} {r : Reference} : ∀ {args : List Body} {codes : List Code},
    expressions scope args = .ok codes → r ∈ referencesInArgs args → ∃ code ∈ codes, Written scope code r
  | [], _, _, hr => by
    rw [referencesInArgs] at hr
    cases hr
  | b :: args, _, h, hr => by
    rw [referencesInArgs] at hr
    rw [expressions] at h
    obtain ⟨code, hcode, h⟩ := bind_eq_ok_iff.mp h
    obtain ⟨codes, hcodes, h⟩ := bind_eq_ok_iff.mp h
    cases h
    rcases List.mem_append.mp hr with hr | hr
    · exact ⟨code, List.mem_cons_self, written_expression hcode hr⟩
    · obtain ⟨code', hmem, hwritten⟩ := written_expressions hcodes hr
      exact ⟨code', List.mem_cons_of_mem _ hmem, hwritten⟩

end

/-! ### Paths in what an artifact declares -/

section Declared
variable {scope : Scope} {r : Reference}

theorem written_functionBody {b : Body} {code : Code} (h : functionBody scope b = .ok code) (hr : r ∈ references b) :
    Written scope code r := by
  rw [functionBody.eq_def] at h
  split at h
  · rw [references] at hr
    obtain ⟨name, -, h⟩ := bind_eq_ok_iff.mp h
    obtain ⟨inner, hinner, h⟩ := bind_eq_ok_iff.mp h
    cases h
    exact (written_expression hinner hr).imp fun _ ho => ho.assignment _
  · rw [references] at hr
    obtain ⟨name, -, h⟩ := bind_eq_ok_iff.mp h
    obtain ⟨inner, hinner, h⟩ := bind_eq_ok_iff.mp h
    cases h
    exact (written_expression hinner hr).imp fun _ ho => ho.registration _
  · exact written_expression h hr

theorem written_typeCode {t : FieldType} (hr : r ∈ typeReferences t) : ∀ {code : Code},
    typeCode scope t = .ok code → Written scope code r := by
  induction t with
  | scalar s | value s => cases hr
  | named target =>
    intro code h
    obtain rfl := List.mem_singleton.mp hr
    rw [typeCode] at h
    obtain ⟨path, hpath, h⟩ := bind_eq_ok_iff.mp h
    cases h
    exact ⟨path, hpath, .self _⟩
  | list t ih | map t ih =>
    intro code h
    rw [typeCode] at h
    obtain ⟨inner, hinner, h⟩ := bind_eq_ok_iff.mp h
    cases h
    exact (ih hr hinner).imp fun _ ho => (ho.append_left _).append_right _

theorem written_paramCode {p : Param} {code : Code} (h : paramCode scope p = .ok code) (hr : r ∈ paramReferences p) :
    Written scope code r := by
  obtain ⟨_, type⟩ := p
  rw [paramCode] at h
  obtain ⟨name, -, h⟩ := bind_eq_ok_iff.mp h
  obtain ⟨code, htype, h⟩ := bind_eq_ok_iff.mp h
  cases h
  suffices hwritten : Written scope code r from hwritten.imp fun _ ho => ho.append_left _
  cases type with
  | value t => exact written_typeCode hr htype
  | optional t =>
    rw [paramTypeCode] at htype
    obtain ⟨inner, hinner, htype⟩ := bind_eq_ok_iff.mp htype
    cases htype
    exact (written_typeCode hr hinner).imp fun _ ho => (ho.append_left _).append_right _
  | configure target =>
    obtain rfl := List.mem_singleton.mp hr
    rw [paramTypeCode] at htype
    obtain ⟨path, hpath, htype⟩ := bind_eq_ok_iff.mp htype
    cases htype
    exact Written.imp ⟨path, hpath, .self _⟩ fun _ ho => ho.append_left _
  | logicalName | optionalLogicalName | dependencies | context => cases hr

theorem written_functionOf {attributes : List Attribute} {summary : String} {receiver : List Code} {result : Code}
    {c : Callable} {f : Function} (h : functionOf scope attributes summary receiver result c = .ok f)
    (hr : r ∈ callableReferences c) : Written scope f.code r := by
  rw [functionOf] at h
  obtain ⟨name, -, h⟩ := bind_eq_ok_iff.mp h
  obtain ⟨params, hparams, h⟩ := bind_eq_ok_iff.mp h
  obtain ⟨body, hbody, h⟩ := bind_eq_ok_iff.mp h
  cases h
  rw [Function.code]
  rcases List.mem_append.mp hr with hr | hr
  · obtain ⟨p, hp, hr⟩ := List.mem_flatMap.mp hr
    obtain ⟨code, hcode, hok⟩ := exists_of_mem_left (forall₂_mapM_ok hparams) hp
    refine (written_paramCode hok hr).imp fun _ ho => ?_
    have hinputs := (ho.commas (List.mem_append_right receiver hcode)).group .parentheses
    exact (((hinputs.append_left _).append_right _).append_right _).append_right _
  · exact (written_functionBody hbody hr).imp fun _ ho => (ho.group _).append_left _

/-- What is written for a method stands in what is written for the implementation that it is part of. -/
theorem Occurs.method {piece : Code} {f : Function} {functions : List Function} {interface : Option Code}
    {target : String} (h : Occurs piece f.code) (hf : f ∈ functions) :
    Occurs piece (Item.implementation ⟨interface, target, functions.map .function⟩).code := by
  rw [Item.code, Implementation.code]
  exact ((h.flatMap (f := Member.code) (a := .function f) (List.mem_map_of_mem hf)).group _).append_left _

theorem Occurs.field {piece : Code} {f : StructField} {fields : List StructField} {attributes : List Attribute}
    {name : String} (h : Occurs piece f.type) (hf : f ∈ fields) :
    Occurs piece (Item.struct ⟨attributes, name, fields⟩).code := by
  rw [Item.code, Struct.code]
  refine (Occurs.group (.flatMap ?_ hf) _).append_left _
  exact (h.append_left _).append_right _

theorem Occurs.memberType {piece type : Code} (h : Occurs piece type) (m : Typewright.Member) :
    Occurs piece (memberType m type) := by
  have hheld : Occurs piece (if m.boxed then boxOf type else type) := by
    split
    · exact (h.append_left _).append_right _
    · exact h
  rw [Source.memberType]
  split
  · exact hheld
  · exact (hheld.append_left _).append_right _

theorem written_memberField {m : Typewright.Member} {f : StructField} (h : memberField scope true m = .ok f)
    (hr : r ∈ typeReferences m.type) : Written scope f.type r := by
  rw [memberField] at h
  obtain ⟨name, -, h⟩ := bind_eq_ok_iff.mp h
  obtain ⟨type, htype, h⟩ := bind_eq_ok_iff.mp h
  cases h
  exact (written_typeCode hr htype).imp fun _ ho => ho.memberType m

theorem written_accessorMethod {acc : Accessor} {f : Function} (h : accessorMethod scope acc = .ok f)
    (hr : r ∈ references acc.body) : Written scope f.code r := by
  rw [accessorMethod] at h
  obtain ⟨name, -, h⟩ := bind_eq_ok_iff.mp h
  obtain ⟨body, hbody, h⟩ := bind_eq_ok_iff.mp h
  cases h
  exact (written_functionBody hbody hr).imp fun _ ho => (ho.group _).append_left _

/-! ### What an artifact declares -/

/-- What is written in `code` is written in one of `items`. -/
def Within (code : Code) (items : List Item) : Prop :=
  ∃ item ∈ items, ∀ piece, Occurs piece code → Occurs piece item.code

theorem Within.mono {code : Code} {items items' : List Item} (h : Within code items) (hsub : items ⊆ items') :
    Within code items' := by
  obtain ⟨item, hitem, hoccurs⟩ := h
  exact ⟨item, hsub hitem, hoccurs⟩

theorem Within.method {f : Function} {functions : List Function} {items : List Item} {interface : Option Code}
    {target : String} (hf : f ∈ functions)
    (hitem : .implementation ⟨interface, target, functions.map .function⟩ ∈ items) : Within f.code items :=
  ⟨_, hitem, fun _ ho => ho.method hf⟩

theorem Within.written {code : Code} {items : List Item} (h : Within code items) (hr : Written scope code r) :
    ∃ item ∈ items, Written scope item.code r := by
  obtain ⟨item, hitem, hoccurs⟩ := h
  exact ⟨item, hitem, hr.imp hoccurs⟩

def WritesFunction (scope : Scope) (items : List Item) (c : Callable) : Prop :=
  ∃ attributes summary receiver result f, functionOf scope attributes summary receiver result c = .ok f ∧
    Within f.code items

def WritesField (scope : Scope) (items : List Item) (m : Typewright.Member) : Prop :=
  ∃ f, memberField scope true m = .ok f ∧ Within f.type items

def WritesAccessor (scope : Scope) (items : List Item) (acc : Accessor) : Prop :=
  ∃ f, accessorMethod scope acc = .ok f ∧ Within f.code items

theorem WritesFunction.mono {items items' : List Item} {c : Callable} (h : WritesFunction scope items c)
    (hsub : items ⊆ items') : WritesFunction scope items' c := by
  obtain ⟨attributes, summary, receiver, result, f, hf, hin⟩ := h
  exact ⟨attributes, summary, receiver, result, f, hf, hin.mono hsub⟩

/-- What is written for an artifact, whole or in part. -/
structure WritesAll (scope : Scope) (items : List Item) (callables : List Callable) (members : List Typewright.Member)
    (accessors : List Accessor) : Prop where
  callables : ∀ c ∈ callables, WritesFunction scope items c
  members : ∀ m ∈ members, WritesField scope items m
  accessors : ∀ acc ∈ accessors, WritesAccessor scope items acc

theorem writesAll_dataItems {a : Artifact} {items : List Item} (h : dataItems scope a = .ok items) :
    WritesAll scope items [a.data.constructor, a.factory] a.data.members a.data.accessors := by
  rw [dataItems] at h
  obtain ⟨name, -, h⟩ := bind_eq_ok_iff.mp h
  obtain ⟨builder, -, h⟩ := bind_eq_ok_iff.mp h
  obtain ⟨fields, hfields, h⟩ := bind_eq_ok_iff.mp h
  obtain ⟨constructor, hconstructor, h⟩ := bind_eq_ok_iff.mp h
  obtain ⟨factory, hfactory, h⟩ := bind_eq_ok_iff.mp h
  obtain ⟨accessors, haccessors, h⟩ := bind_eq_ok_iff.mp h
  have hmethod : ∀ f ∈ constructor :: factory :: accessors, Within f.code items := by
    cases h
    exact fun f hf => .method hf (List.mem_append_left _ (List.mem_cons_of_mem _ List.mem_cons_self))
  constructor
  case callables =>
    intro c hc
    simp only [List.mem_cons, List.not_mem_nil, or_false] at hc
    rcases hc with rfl | rfl
    · exact ⟨_, _, _, _, _, hconstructor, hmethod _ List.mem_cons_self⟩
    · exact ⟨_, _, _, _, _, hfactory, hmethod _ (List.mem_cons_of_mem _ List.mem_cons_self)⟩
  case members =>
    intro m hm
    rw [structFields] at hfields
    obtain ⟨inner, hinner, hfields⟩ := bind_eq_ok_iff.mp hfields
    cases hfields
    cases h
    obtain ⟨f, hf, hok⟩ := exists_of_mem_left (forall₂_mapM_ok hinner) hm
    refine ⟨f, hok, _, List.mem_append_left _ List.mem_cons_self, fun _ ho => ho.field ?_⟩
    exact Emission.mem_withIdentity.mpr (Or.inr hf)
  case accessors =>
    intro acc hacc
    obtain ⟨f, hf, hok⟩ := exists_of_mem_left (forall₂_mapM_ok haccessors) hacc
    exact ⟨f, hok, hmethod f (List.mem_cons_of_mem _ (List.mem_cons_of_mem _ hf))⟩

theorem writesFunction_builderItems {a : Artifact} {items : List Item} (h : builderItems scope a = .ok items)
    {c : Callable} (hc : c ∈ a.builder.constructor :: a.builder.build :: a.builder.setters.map (·.callable)) :
    WritesFunction scope items c := by
  rw [builderItems] at h
  obtain ⟨name, -, h⟩ := bind_eq_ok_iff.mp h
  obtain ⟨data, -, h⟩ := bind_eq_ok_iff.mp h
  obtain ⟨fields, -, h⟩ := bind_eq_ok_iff.mp h
  obtain ⟨constructor, hconstructor, h⟩ := bind_eq_ok_iff.mp h
  obtain ⟨setters, hsetters, h⟩ := bind_eq_ok_iff.mp h
  obtain ⟨build, hbuild, h⟩ := bind_eq_ok_iff.mp h
  have hmethod : ∀ f ∈ constructor :: setters ++ [build], Within f.code items := by
    cases h
    exact fun f hf => .method hf (List.mem_cons_of_mem _ List.mem_cons_self)
  rcases List.mem_cons.mp hc with rfl | hc
  · exact ⟨_, _, _, _, _, hconstructor, hmethod _ List.mem_cons_self⟩
  rcases List.mem_cons.mp hc with rfl | hc
  · exact ⟨_, _, _, _, _, hbuild, hmethod _ (List.mem_append_right _ List.mem_cons_self)⟩
  · obtain ⟨s, hs, rfl⟩ := List.mem_map.mp hc
    obtain ⟨f, hf, hok⟩ := exists_of_mem_left (forall₂_mapM_ok hsetters) hs
    exact ⟨_, _, _, _, f, hok, hmethod f (List.mem_append_left _ (List.mem_cons_of_mem _ hf))⟩

theorem writesFunction_helperItem {a : Artifact} {item : Item} (h : helperItem scope a = .ok item) :
    WritesFunction scope [item] a.helper := by
  rw [helperItem] at h
  obtain ⟨data, -, h⟩ := bind_eq_ok_iff.mp h
  split at h
  all_goals
    obtain ⟨helper, hhelper, h⟩ := bind_eq_ok_iff.mp h
    cases h
    exact ⟨_, _, _, _, helper, hhelper, _, List.mem_cons_self, fun _ ho => ho⟩

/-- Every function, member and accessor of an artifact is written in its items. -/
theorem writesAll_declarations {a : Artifact} {decls : List Item} (h : declarations scope a = .ok decls) :
    WritesAll scope decls a.callables a.data.members a.data.accessors := by
  rw [declarations] at h
  obtain ⟨data, hdata, h⟩ := bind_eq_ok_iff.mp h
  obtain ⟨builder, hbuilder, h⟩ := bind_eq_ok_iff.mp h
  obtain ⟨helper, hhelper, h⟩ := bind_eq_ok_iff.mp h
  cases h
  have hdata := writesAll_dataItems hdata
  have hbuilder := fun c => writesFunction_builderItems hbuilder (c := c)
  have hhelper := writesFunction_helperItem hhelper
  have hdataItems : data ⊆ data ++ builder ++ [helper] := fun _ h => List.mem_append_left _ (List.mem_append_left _ h)
  have hbuilderItems : builder ⊆ data ++ builder ++ [helper] := fun _ h =>
    List.mem_append_left _ (List.mem_append_right _ h)
  have hhelperItems : [helper] ⊆ data ++ builder ++ [helper] := fun _ h => List.mem_append_right _ h
  constructor
  case callables =>
    intro c hc
    simp only [Artifact.callables, List.cons_append, List.nil_append, List.mem_cons] at hc
    rcases hc with rfl | rfl | rfl | rfl | rfl | hc
    · exact (hdata.callables _ List.mem_cons_self).mono hdataItems
    · exact (hdata.callables _ (List.mem_cons_of_mem _ List.mem_cons_self)).mono hdataItems
    · exact (hbuilder _ List.mem_cons_self).mono hbuilderItems
    · exact (hbuilder _ (List.mem_cons_of_mem _ List.mem_cons_self)).mono hbuilderItems
    · exact hhelper.mono hhelperItems
    · exact (hbuilder _ (List.mem_cons_of_mem _ (List.mem_cons_of_mem _ hc))).mono hbuilderItems
  case members =>
    intro m hm
    obtain ⟨f, hf, hin⟩ := hdata.members m hm
    exact ⟨f, hf, hin.mono hdataItems⟩
  case accessors =>
    intro acc hacc
    obtain ⟨f, hf, hin⟩ := hdata.accessors acc hacc
    exact ⟨f, hf, hin.mono hdataItems⟩

/-- For every reference of an artifact, a path is written in an item of the artifact. -/
theorem written_allReferences {a : Artifact} {decls : List Item} (h : declarations scope a = .ok decls)
    (hr : r ∈ allReferences a) : ∃ item ∈ decls, Written scope item.code r := by
  have hall := writesAll_declarations h
  rcases List.mem_append.mp hr with hr | hr
  · rcases List.mem_append.mp hr with hr | hr
    · obtain ⟨m, hm, hr⟩ := List.mem_flatMap.mp hr
      obtain ⟨f, hf, hin⟩ := hall.members m hm
      exact hin.written (written_memberField hf hr)
    · obtain ⟨c, hc, hr⟩ := List.mem_flatMap.mp hr
      obtain ⟨_, _, _, _, f, hf, hin⟩ := hall.callables c hc
      exact hin.written (written_functionOf hf hr)
  · obtain ⟨acc, hacc, hr⟩ := List.mem_flatMap.mp hr
    obtain ⟨f, hf, hin⟩ := hall.accessors acc hacc
    exact hin.written (written_accessorMethod hf hr)

theorem referencesOf_subset {c : Callable} : referencesOf c ⊆ callableReferences c := by
  intro r hr
  rcases List.mem_append.mp hr with hr | hr
  · obtain ⟨p, hp, hr⟩ := List.mem_flatMap.mp hr
    refine List.mem_append_left _ (List.mem_flatMap.mpr ⟨p, hp, ?_⟩)
    obtain ⟨_, type⟩ := p
    cases type <;> first | exact hr | cases hr
  · exact List.mem_append_right _ hr

theorem ownReferences_subset {a : Artifact} : ownReferences a ⊆ allReferences a := by
  intro r hr
  obtain ⟨c, hc, hr⟩ := List.mem_flatMap.mp hr
  have hmem : c ∈ a.callables := by
    simp only [List.mem_cons, List.not_mem_nil, or_false] at hc
    rcases hc with rfl | rfl | rfl | rfl | rfl <;> simp [Artifact.callables]
  exact List.mem_append_left _ (List.mem_append_right _ (List.mem_flatMap.mpr ⟨c, hmem, referencesOf_subset hr⟩))

end Declared

end Source

end Typewright
