import Typewright.Proofs.Mentions
import Typewright.Proofs.SelfReference

/-! # Where written paths lead

A path in the file is read word by word: every `super` at its start leaves a module, the words behind enter one each,
and the last word names an item. Read like this from the module that it stands in, what is written for a type that an
artifact mentions leads to a struct that the file declares. -/

namespace Typewright.Source

open Emission

/-! ### Paths as words -/

/-- A path is written as its words with `::` between them. -/
def pathCode (words : List String) : Code := List.intercalate (word "::") (words.map word)

/-- Where the words of a path lead from the module `here`. -/
def readPath (here : List String) : List String → Option Place
  | [] => none
  | word :: words =>
    if word = "super" then
      if here = [] then none else readPath here.dropLast words
    else some (here ++ (word :: words).dropLast, (word :: words).getLast (List.cons_ne_nil _ _))

/-- The words of a path. -/
def ItemPath.words (p : ItemPath) : List String := List.replicate p.ascent "super" ++ p.descent ++ [p.item]

theorem pathCode_concat (words : List String) (item : String) :
    pathCode (words ++ [item]) = words.flatMap (fun name => word name ++ word "::") ++ word item := by
  induction words with
  | nil => simp [pathCode]
  | cons first words ih =>
    have hbehind : (words ++ [item]).map word ≠ [] := by simp
    rw [pathCode] at ih
    rw [pathCode, List.cons_append, List.map_cons, List.intercalate_cons_of_ne_nil hbehind, ih, List.flatMap_cons,
      List.append_assoc, List.append_assoc, List.append_assoc]

theorem ItemPath.code_eq (p : ItemPath) : p.code = pathCode p.words := by
  have hsuper : tokens "super ::" = word "super" ++ word "::" := rfl
  rw [ItemPath.code, ItemPath.words, pathCode_concat, List.flatMap_append, List.flatMap_replicate, hsuper]

theorem readPath_super {words : List String} : ∀ {n : Nat} {here : List String}, n ≤ here.length →
    readPath here (List.replicate n "super" ++ words) = readPath (here.take (here.length - n)) words := by
  intro n
  induction n with
  | zero => simp
  | succ n ih =>
    intro here hn
    have hne : here ≠ [] := by
      rintro rfl
      cases hn
    have hshorter : n ≤ here.dropLast.length := by
      rw [List.length_dropLast]
      omega
    rw [List.replicate_succ, List.cons_append, readPath, if_pos rfl, if_neg hne, ih hshorter, List.length_dropLast,
      List.dropLast_eq_take, List.take_take]
    congr 2
    omega

theorem readPath_concat {here words : List String} {item : String} (h : ∀ w ∈ words ++ [item], w ≠ "super") :
    readPath here (words ++ [item]) = some (here ++ words, item) := by
  cases words with
  | nil =>
    rw [List.nil_append, readPath, if_neg (h item List.mem_cons_self)]
    simp
  | cons first words =>
    rw [List.cons_append, readPath, if_neg (h first List.mem_cons_self)]
    simp only [← List.cons_append, List.dropLast_concat, List.getLast_concat]

/-- Read word by word, a path leads to where it resolves. -/
theorem ItemPath.readPath_words {p : ItemPath} {here : List String} (hascent : p.ascent ≤ here.length)
    (hwords : ∀ w ∈ p.descent ++ [p.item], w ≠ "super") : readPath here p.words = some (p.resolve here) := by
  rw [ItemPath.words, List.append_assoc, readPath_super hascent, readPath_concat hwords, ItemPath.resolve]

example : readPath ["property", "net"] ["super", "super", "resource", "Rack"] = some (["resource"], "Rack") := by decide

theorem identifier_ne_super {name w : String} (h : identifier name = .ok w) : w ≠ "super" := by
  rintro rfl
  rw [identifier] at h
  split at h
  · cases h
  split at h
  · -- A keyword is written with a mark.
    have hmarked : "r#" ++ name = "super" := Except.ok.inj h
    have hfirst := congrArg (fun s => s.toList.head?) hmarked
    simp at hfirst
  split at h
  · split at h
    · cases h
    · rename_i hreserved
      cases h
      exact hreserved (by decide)
  · cases h

theorem pathTo_ok {scope : Scope} {a : Artifact} {name : String} {p : ItemPath} (h : scope.pathTo a name = .ok p) :
    p.ascent ≤ scope.path.length ∧ ∀ w ∈ p.descent ++ [p.item], w ≠ "super" := by
  rw [Scope.pathTo] at h
  obtain ⟨item, hitem, h⟩ := bind_eq_ok_iff.mp h
  have hlast := identifier_ne_super hitem
  split at h
  · cases h
    exact ⟨Nat.zero_le _, fun w hw => List.mem_singleton.mp hw ▸ hlast⟩
  · obtain ⟨modules, hmodules, h⟩ := bind_eq_ok_iff.mp h
    cases h
    refine ⟨Nat.le_refl _, fun w hw => ?_⟩
    rcases List.mem_append.mp hw with hw | hw
    · obtain ⟨_, -, hok⟩ := exists_of_mem_right (forall₂_mapM_ok hmodules) hw
      exact identifier_ne_super hok
    · exact List.mem_singleton.mp hw ▸ hlast

/-! ### The structs that paths lead to -/

/-- From the module `here` the words lead to the struct of `a` for the role, in the module that `a` is placed in, and
    the file declares a struct there. -/
def LeadsToStruct (items : List Item) (here words : List String) (a : Artifact) (role : Role) : Prop :=
  ∃ modules s, readPath here words = some (modules, s.name) ∧ a.placement.modulePath.mapM identifier = .ok modules ∧
    identifier (structName a role) = .ok s.name ∧ InModule modules items (.struct s)

section Paths
variable {schema : Schema} {config : Config} {table : MemberTable} {artifacts : Catalogue Artifact} {a b : Artifact}
  {items : List Item} {here : List String} {target : String}

/-- The structs of an artifact stand in its module. -/
theorem exists_struct_inModule (h : Emits schema config table artifacts)
    (ha : a ∈ (Bundle.ofCatalogue artifacts).artifacts)
    (hitems : fileItems (.ofCatalogue artifacts) config = .ok items) (role : Role) :
    ∃ modules s, declaredAt a role = .ok (modules, s.name) ∧ InModule modules items (.struct s) := by
  obtain ⟨_, decls, modules, -, -, hin, hplaces⟩ :=
    declared_of_fileItems hitems ha (h.generated ha).dataName (h.generated ha).builderName
  obtain ⟨s, hs, hplace⟩ := hplaces role
  exact ⟨modules, s, hplace, hin _ hs⟩

/-- For both structs of a type that is found, a path is written that leads to the struct. -/
theorem leadsToStruct (scope : Scope) (h : Emits schema config table artifacts)
    (hitems : fileItems (.ofCatalogue artifacts) config = .ok items)
    (hhere : scope.path.mapM identifier = .ok here) (hb : b ∈ (Bundle.ofCatalogue artifacts).artifacts)
    (hdenoted : denoted? scope.bundle target = some b) (role : Role) :
    ∃ p, Reference.path scope ⟨role, target⟩ = .ok p ∧ LeadsToStruct items here p.words b role := by
  obtain ⟨modules, s, hplace, hin⟩ := exists_struct_inModule h hb hitems role
  obtain ⟨_, p, hhere', hp, hresolve⟩ := (Reference.leadsTo_iff (r := ⟨role, target⟩) hdenoted hhere).mpr hplace
  rw [hhere] at hhere'
  cases hhere'
  obtain ⟨hmodules, hname⟩ := declaredAt_eq_ok_iff.mp hplace
  have hpath := hp
  rw [Reference.path_eq hdenoted] at hpath
  obtain ⟨hascent, hwords⟩ := pathTo_ok hpath
  have hlength : here.length = scope.path.length := (forall₂_mapM_ok hhere).length_eq.symm
  refine ⟨p, hp, modules, s, ?_, hmodules, ?_, hin⟩
  · rw [ItemPath.readPath_words (hlength ▸ hascent) hwords, hresolve]
  · rw [structName_eq h hb]
    exact hname

end Paths

/-- Every artifact stands in the module of the file that its placement names. For each type that it mentions there is
    an artifact, and what is written for the data type or the builder of that one leads from the module to the struct
    that the file declares for it. Such a path stands in the items of the artifact wherever one of its types or bodies
    refers to the data type or the builder. -/
theorem mentions_lead_to_structs {schema : Schema} {config : Config} {bundle : Bundle} {text : String}
    (h : Bundle.ofSchema schema config = .ok bundle) (htext : render bundle config = .ok text) :
    ∃ runtime items, RuntimePath.ofText config.runtimePath = .ok runtime ∧ fileItems bundle config = .ok items ∧
      text = header ++ "\n" ++ Code.text (Item.codeOfList items) ++ "\n" ∧
      ∀ a ∈ bundle.artifacts, ∃ here decls, a.placement.modulePath.mapM identifier = .ok here ∧
        declarations ⟨a.placement.modulePath, bundle, runtime⟩ a = .ok decls ∧
        (∀ item ∈ decls, InModule here items item) ∧
        ∀ target ∈ a.mentions, ∃ b ∈ bundle.artifacts, denoted? bundle target = some b ∧
          ∀ role, ∃ p, Reference.path ⟨a.placement.modulePath, bundle, runtime⟩ ⟨role, target⟩ = .ok p ∧
            p.code = pathCode p.words ∧ LeadsToStruct items here p.words b role ∧
              (⟨role, target⟩ ∈ allReferences a → ∃ item ∈ decls, Occurs p.code item.code) := by
  obtain ⟨table, artifacts, hE, rfl⟩ := ofSchema_ok h
  rw [render] at htext
  obtain ⟨items, hitems, htext⟩ := bind_eq_ok_iff.mp htext
  cases htext
  have hruntime := hitems
  rw [fileItems] at hruntime
  obtain ⟨runtime, hruntime, -⟩ := bind_eq_ok_iff.mp hruntime
  refine ⟨runtime, items, hruntime, hitems, rfl, fun a ha => ?_⟩
  obtain ⟨runtime', decls, here, hruntime', hdecls, hin, hplaces⟩ :=
    declared_of_fileItems hitems ha (hE.generated ha).dataName (hE.generated ha).builderName
  rw [hruntime] at hruntime'
  cases hruntime'
  obtain ⟨_, -, hplace⟩ := hplaces .data
  obtain ⟨hhere, -⟩ := declaredAt_eq_ok_iff.mp hplace
  refine ⟨here, decls, hhere, hdecls, hin, fun target htarget => ?_⟩
  have hfound := isSome_denoted?_of_mem hE (mem_names_of_mem_mentions hE ha htarget)
  obtain ⟨b, hdenoted⟩ := Option.isSome_iff_exists.mp hfound
  have hb : b ∈ (Bundle.ofCatalogue artifacts).artifacts := by
    rw [hE.denoted?_source] at hdenoted
    exact List.mem_of_find?_eq_some hdenoted
  refine ⟨b, hb, hdenoted, fun role => ?_⟩
  obtain ⟨p, hp, hleads⟩ := leadsToStruct ⟨a.placement.modulePath, .ofCatalogue artifacts, runtime⟩ hE hitems hhere hb
    hdenoted role
  refine ⟨p, hp, p.code_eq, hleads, fun hr => ?_⟩
  obtain ⟨item, hitem, _, hp', hoccurs⟩ := written_allReferences hdecls hr
  rw [hp] at hp'
  cases hp'
  exact ⟨item, hitem, hoccurs⟩

/-- A type that mentions one of a module below its own, which is named by a keyword, and is mentioned from another
    root. -/
def racks : Schema where
  properties := .ofList [
    ("Mod.Core.Zone", {}),
    ("Mod.Port", { fields := .ofList [("Zone", (Field.nested "Zone").withRequired true)] })]
  resources := .ofList [("Rack", { fields := .ofList [("Ports", .listOf "Port")] })]

theorem mentions_lead_to_structs_racks : ∃ bundle text items, Bundle.ofSchema racks {} = .ok bundle ∧
    render bundle {} = .ok text ∧ fileItems bundle {} = .ok items ∧
      (bundle.artifacts.map fun a => (a.typeName, a.mentions.dedup)) =
        [("Mod.Core.Zone", ["Mod.Core.Zone"]), ("Mod.Port", ["Mod.Port", "Mod.Core.Zone"]),
          ("Rack", ["Rack", "Mod.Port"])] ∧
      ∀ a ∈ bundle.artifacts, ∃ here, a.placement.modulePath.mapM identifier = .ok here ∧
        ∀ target ∈ a.mentions, ∃ b ∈ bundle.artifacts, denoted? bundle target = some b ∧
          ∀ role, ∃ words, LeadsToStruct items here words b role := by
  have hrun : ((Bundle.ofSchema racks {}).toOption.bind fun bundle => (render bundle {}).toOption.map fun _ =>
      bundle.artifacts.map fun a => (a.typeName, a.mentions.dedup)) =
      some [("Mod.Core.Zone", ["Mod.Core.Zone"]), ("Mod.Port", ["Mod.Port", "Mod.Core.Zone"]),
        ("Rack", ["Rack", "Mod.Port"])] := by decide +kernel
  obtain ⟨bundle, hbundle, hrun⟩ := Option.bind_eq_some_iff.mp hrun
  obtain ⟨text, htext, hmentions⟩ := Option.map_eq_some_iff.mp hrun
  have hbundle := eq_ok_of_toOption hbundle
  have htext := eq_ok_of_toOption htext
  obtain ⟨_, items, -, hitems, -, hall⟩ := mentions_lead_to_structs hbundle htext
  refine ⟨bundle, text, items, hbundle, htext, hitems, hmentions, fun a ha => ?_⟩
  obtain ⟨here, _, hhere, -, -, hleads⟩ := hall a ha
  refine ⟨here, hhere, fun target htarget => ?_⟩
  obtain ⟨b, hb, hdenoted, hroles⟩ := hleads target htarget
  refine ⟨b, hb, hdenoted, fun role => ?_⟩
  obtain ⟨p, -, -, hstruct, -⟩ := hroles role
  exact ⟨p.words, hstruct⟩

end Typewright.Source
