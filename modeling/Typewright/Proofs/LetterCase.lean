import Typewright.Proofs.Spelling

/-! # Lower case and ASCII case

A segment is put into lower case in full before it is compared with the vendor, but the comparison itself sees only
the case of `A` to `Z`. Lower case leaves no capitals of either kind, so what a segment is compared with is the vendor in
ASCII lower case: the comparison misses a vendor that has capitals outside of ASCII, and never takes another segment for
the vendor. -/

namespace Typewright

namespace Text

/-! ### Capitals in ASCII -/

section Ascii
variable {α : Type} {c : Char}

theorem toLower_of_not_ascii (h : isAscii c = false) : c.toLower = c := by
  rw [isAscii, decide_eq_false_iff_not] at h
  refine dif_neg fun hupper => h ?_
  have hcode : c.val.toNat ≤ 'Z'.val.toNat := hupper.2
  have hlast : 'Z'.val.toNat < 0x80 := by decide
  exact Nat.lt_of_le_of_lt hcode hlast

theorem eq_toLower {f : Char → α} (h : ∀ c, isAscii c = true → f c.toLower = f c) : ∀ c, f c.toLower = f c := by
  intro c
  cases hc : isAscii c with
  | true => exact h c hc
  | false => rw [toLower_of_not_ascii hc]

theorem lowerChar_toLower : ∀ c, lowerChar c.toLower = lowerChar c := eq_toLower (forall_ascii (by decide))

theorem isCased_toLower : ∀ c, isCased c.toLower = isCased c := eq_toLower (forall_ascii (by decide))

theorem isCaseIgnorable_toLower : ∀ c, isCaseIgnorable c.toLower = isCaseIgnorable c :=
  eq_toLower (forall_ascii (by decide))

theorem toLower_eq_sigma_iff : c.toLower = 'Σ' ↔ c = 'Σ' := by
  refine ⟨fun h => ?_, by rintro rfl; decide⟩
  cases hc : isAscii c with
  | true =>
    have hnone : ∀ c, isAscii c = true → c.toLower ≠ 'Σ' := forall_ascii (by decide)
    exact absurd h (hnone c hc)
  | false => rwa [toLower_of_not_ascii hc] at h

theorem startsCased_map_toLower (cs : List Char) : startsCased (cs.map Char.toLower) = startsCased cs := by
  simp only [startsCased, List.find?_map, Function.comp_def, isCaseIgnorable_toLower, Option.any_map, isCased_toLower]

/-- The case of ASCII letters does not matter to lower case, not even beside a sigma. -/
theorem lowerAfter_map_toLower (before cs : List Char) :
    lowerAfter (before.map Char.toLower) (cs.map Char.toLower) = lowerAfter before cs := by
  induction cs generalizing before with
  | nil => rfl
  | cons c rest ih =>
    have hrest := ih (c :: before)
    rw [List.map_cons] at hrest
    simp only [List.map_cons, lowerAfter, toLower_eq_sigma_iff, startsCased_map_toLower, lowerChar_toLower, hrest]

end Ascii

/-! ### Characters in lower case -/

/-- No small letter of `s` is a capital of `t`: either the two runs do not meet, or they take turns. -/
def CaseShift.apart (s t : CaseShift) : Bool :=
  Nat.blt (s.small + (s.capitals.last - s.capitals.first)) t.capitals.first || Nat.blt t.capitals.last s.small ||
    (t.capitals.step == 2 && (s.capitals.step == 2 || s.capitals.first == s.capitals.last) &&
      Nat.ble t.capitals.first s.small && (s.small - t.capitals.first) % 2 == 1)

theorem CaseShift.not_contains_of_apart {s t : CaseShift} {n : Nat} (h : s.apart t = true)
    (hn : s.capitals.contains n = true) : t.capitals.contains (s.small + (n - s.capitals.first)) = false := by
  simp only [apart, Bool.or_eq_true, Bool.and_eq_true, Nat.blt_eq, Nat.ble_eq, beq_iff_eq] at h
  simp only [Stride.contains, Bool.and_eq_true, decide_eq_true_eq, beq_iff_eq] at hn
  rw [← Bool.not_eq_true]
  simp only [Stride.contains, Bool.and_eq_true, decide_eq_true_eq, beq_iff_eq]
  rintro ⟨⟨hfirst, hlast⟩, hstep⟩
  rcases h with (hbefore | hbehind) | ⟨⟨⟨htwo, hsteps⟩, hle⟩, hodd⟩
  · omega
  · omega
  · rw [htwo] at hstep
    rcases hsteps with hsteps | hsingle
    · rw [hsteps] at hn
      omega
    · omega

theorem lowerChar_ofNat {n : Nat} (hupper : 'Z'.toNat < n) (hdotted : n ≠ '\u0130'.toNat)
    (h : ∀ t ∈ caseShifts, t.capitals.contains n = false) : lowerChar (Char.ofNat n) = [Char.ofNat n] := by
  by_cases hvalid : n.isValidChar
  · have hcode : (Char.ofNat n).toNat = n := by
      rw [Char.ofNat, dif_pos hvalid]
      rfl
    rw [lowerChar]
    split
    · have hall : ∀ c, isAscii c = true → 'Z'.toNat < c.toNat → c.toLower = c := forall_ascii (by decide)
      rw [hall _ ‹_› (by rwa [hcode])]
    · have hnone : (caseShifts.find? fun s => s.capitals.contains n) = none :=
        List.find?_eq_none.mpr fun t ht => Bool.eq_false_iff.mp (h t ht)
      rw [if_neg fun heq => hdotted (by rw [← hcode, heq]), hcode, hnone]
  · rw [Char.ofNat, dif_neg hvalid]
    decide

/-- What lower case gives is in lower case. -/
theorem lowerChar_of_mem_lowerChar {c d : Char} (hd : d ∈ lowerChar c) : lowerChar d = [d] := by
  have hascii : ∀ c, isAscii c = true → lowerChar c.toLower = [c.toLower] := forall_ascii (by decide)
  have hapart : (caseShifts.all fun s => caseShifts.all s.apart) = true := by decide +kernel
  have hsmall : ∀ s ∈ caseShifts, 'Z'.toNat < s.small ∧
      (s.small + (s.capitals.last - s.capitals.first) < '\u0130'.toNat ∨ '\u0130'.toNat < s.small) := by decide +kernel
  rw [lowerChar] at hd
  split at hd
  · rw [List.mem_singleton.mp hd]
    exact hascii c ‹_›
  · split at hd
    · simp only [List.mem_cons, List.not_mem_nil, or_false] at hd
      rcases hd with rfl | rfl <;> decide
    · split at hd
      · rename_i s hs
        have hmem := List.mem_of_find?_eq_some hs
        have hcapital := List.find?_some hs
        rw [List.mem_singleton.mp hd]
        obtain ⟨hupper, hdotted⟩ := hsmall s hmem
        have hin := hcapital
        simp only [Stride.contains, Bool.and_eq_true, decide_eq_true_eq] at hin
        refine lowerChar_ofNat (by omega) (by omega) fun t ht => ?_
        exact CaseShift.not_contains_of_apart (List.all_eq_true.mp (List.all_eq_true.mp hapart s hmem) t ht) hcapital
      · rw [List.mem_singleton.mp hd, lowerChar, if_neg ‹_›, if_neg ‹_›]
        simp only [‹List.find? _ _ = none›]

theorem toLower_of_lowerChar {c : Char} (h : lowerChar c = [c]) : c.toLower = c := by
  cases hc : isAscii c with
  | true =>
    rw [lowerChar, if_pos hc] at h
    exact List.singleton_inj.mp h
  | false => exact toLower_of_not_ascii hc

theorem ne_sigma_of_lowerChar {c : Char} (h : lowerChar c = [c]) : c ≠ 'Σ' := by
  rintro rfl
  exact absurd h (by decide)

/-! ### Texts in lower case -/

section Texts
variable {cs : List Char} {d : Char} {before : List Char}

theorem lowerChar_of_mem_lowerAfter (hd : d ∈ lowerAfter before cs) : lowerChar d = [d] := by
  fun_induction lowerAfter before cs with
  | case1 => cases hd
  | case2 before c rest ih =>
    rcases List.mem_append.mp hd with hd | hd
    · split at hd
      · split at hd
        all_goals
          rw [List.mem_singleton.mp hd]
          decide
      · exact lowerChar_of_mem_lowerChar hd
    · exact ih hd

theorem lowerAfter_eq_map (h : ∀ c ∈ cs, isAscii c = false → lowerChar c = [c]) :
    lowerAfter before cs = cs.map Char.toLower := by
  induction cs generalizing before with
  | nil => rfl
  | cons c rest ih =>
    rw [List.forall_mem_cons] at h
    have hc : lowerChar c = [c.toLower] ∧ c ≠ 'Σ' := by
      cases hascii : isAscii c with
      | true =>
        refine ⟨by rw [lowerChar, if_pos hascii], ?_⟩
        rintro rfl
        cases hascii
      | false => exact ⟨by rw [h.1 hascii, toLower_of_not_ascii hascii], ne_sigma_of_lowerChar (h.1 hascii)⟩
    rw [lowerAfter, if_neg hc.2, hc.1, ih h.2]
    rfl

theorem lowerAscii_lowerText (s : String) : lowerAscii (lowerText s) = lowerText s := by
  rw [lowerAscii, lowerText, String.toList_ofList]
  exact congrArg String.ofList ((List.map_congr_left fun d hd =>
    toLower_of_lowerChar (lowerChar_of_mem_lowerAfter hd)).trans (List.map_id' _))

theorem lowerText_lowerAscii (s : String) : lowerText (lowerAscii s) = lowerText s := by
  rw [lowerText, lowerAscii, String.toList_ofList, lowerText]
  exact congrArg String.ofList (lowerAfter_map_toLower [] s.toList)

/-- The two notions of lower case agree on a text that has no capitals but `A` to `Z`. -/
theorem lowerText_eq_lowerAscii_iff (s : String) :
    lowerText s = lowerAscii s ↔ ∀ c ∈ s.toList, isAscii c = false → lowerChar c = [c] := by
  refine ⟨fun h c hc hascii => ?_, fun h => congrArg String.ofList (lowerAfter_eq_map h)⟩
  have hmem : c ∈ (lowerAscii s).toList := by
    rw [lowerAscii, String.toList_ofList]
    exact List.mem_map.mpr ⟨c, hc, toLower_of_not_ascii hascii⟩
  rw [← h, lowerText, String.toList_ofList] at hmem
  exact lowerChar_of_mem_lowerAfter hmem

theorem lowerText_lowerText (s : String) : lowerText (lowerText s) = lowerText s := by
  refine ((lowerText_eq_lowerAscii_iff _).mpr fun d hd _ => ?_).trans (lowerAscii_lowerText s)
  rw [lowerText, String.toList_ofList] at hd
  exact lowerChar_of_mem_lowerAfter hd

theorem sameAsciiCase_lowerText_iff (s t : String) :
    sameAsciiCase (lowerText s) t = true ↔ lowerText s = lowerAscii t := by
  rw [sameAsciiCase, beq_iff_eq, lowerAscii_lowerText]

/-- What is the same up to ASCII case is the same in lower case. -/
theorem lowerText_eq_of_eq_lowerAscii {s t : String} (h : lowerText s = lowerAscii t) : lowerText s = lowerText t := by
  rw [← lowerText_lowerText s, h, lowerText_lowerAscii]

end Texts

end Text

/-! ### Vendors -/

namespace Placement

open Text

variable {id : TypeId} {config : Config} {vendor first : String} {namespaces rest : List String}

theorem stripVendor_eq_or_tail (vendor : Option String) (namespaces : List String) :
    stripVendor vendor namespaces = namespaces ∨ stripVendor vendor namespaces = namespaces.tail := by
  unfold stripVendor
  split
  · split
    · exact Or.inr rfl
    · exact Or.inl rfl
  · exact Or.inl rfl

theorem stripVendor_of_ne (h : lowerText first ≠ lowerText vendor) :
    stripVendor (some vendor) (lowerText first :: namespaces) = lowerText first :: namespaces := by
  have hdiffer : ¬ sameAsciiCase (lowerText first) vendor = true := fun hsame =>
    h (lowerText_eq_of_eq_lowerAscii ((sameAsciiCase_lowerText_iff _ _).mp hsame))
  rw [stripVendor, if_neg hdiffer]

theorem stripVendor_eq_iff (h : lowerText first = lowerText vendor) :
    stripVendor (some vendor) (lowerText first :: namespaces) = namespaces ↔
      ∀ c ∈ vendor.toList, isAscii c = false → lowerChar c = [c] := by
  have hsame : sameAsciiCase (lowerText first) vendor = true ↔
      ∀ c ∈ vendor.toList, isAscii c = false → lowerChar c = [c] := by
    rw [sameAsciiCase_lowerText_iff, h, lowerText_eq_lowerAscii_iff]
  rw [stripVendor, ← hsame]
  by_cases hstrip : sameAsciiCase (lowerText first) vendor = true
  · rw [if_pos hstrip]
    exact iff_of_true rfl hstrip
  · rw [if_neg hstrip]
    exact iff_of_false (List.cons_ne_self _ _) hstrip

theorem namespaces_of_qualified (h : id.kind = .property ∨ config.qualifyResources = true) :
    (ofType id config).namespaces =
      stripVendor config.vendor ((TypeName.segments id.name).dropLast.map lowerText) := by
  change namespaceOf _ _ _ = _
  unfold namespaceOf
  split
  · rename_i hkind hplain
    rcases h with h | h
    · rw [hkind] at h
      cases h
    · rw [hplain] at h
      cases h
  · rfl

/-- The class of a type is the last segment of its name. The module of a property type, and of a resource type that is
    qualified, has the other segments in lower case, of which at most the first is left out. It is left out if it is the
    vendor up to letter case and lower case changes no character of the vendor outside of ASCII, and only then. -/
theorem vendor_stripped_iff (id : TypeId) (config : Config) :
    (TypeName.segments id.name).getLast? = some (ofType id config).className ∧
      (id.kind = .property ∨ config.qualifyResources = true →
        ((ofType id config).namespaces = (TypeName.segments id.name).dropLast.map lowerText ∨
          (ofType id config).namespaces = ((TypeName.segments id.name).dropLast.map lowerText).tail) ∧
        (config.vendor = none →
          (ofType id config).namespaces = (TypeName.segments id.name).dropLast.map lowerText) ∧
        ∀ vendor first rest, config.vendor = some vendor → (TypeName.segments id.name).dropLast = first :: rest →
          (lowerText first ≠ lowerText vendor → (ofType id config).namespaces = (first :: rest).map lowerText) ∧
          (lowerText first = lowerText vendor → ((ofType id config).namespaces = rest.map lowerText ↔
            ∀ c ∈ vendor.toList, isAscii c = false → lowerChar c = [c]))) := by
  have hlast := List.getLast?_eq_some_getLast (TypeName.segments_ne_nil id.name)
  refine ⟨by rw [ofType, hlast, Option.getD_some], fun hqualified => ?_⟩
  rw [namespaces_of_qualified hqualified]
  refine ⟨stripVendor_eq_or_tail _ _, fun hvendor => ?_, fun vendor first rest hvendor hsegments => ?_⟩
  · rw [hvendor]
    rfl
  rw [hvendor, hsegments, List.map_cons]
  exact ⟨stripVendor_of_ne, stripVendor_eq_iff⟩

theorem vendor_stripped_iff_small :
    (ofType ⟨.property, "ÄWS::EC2::Instance.Ebs"⟩ { vendor := some "äws" }).namespaces = ["ec2", "instance"] := by
  have hsegments : (TypeName.segments "ÄWS::EC2::Instance.Ebs").dropLast = ["ÄWS", "EC2", "Instance"] := by
    decide
  have hsmall : ∀ c ∈ "äws".toList, isAscii c = false → lowerChar c = [c] :=
    (lowerText_eq_lowerAscii_iff "äws").mp (by decide)
  obtain ⟨-, -, hstripped⟩ :=
    (vendor_stripped_iff ⟨.property, "ÄWS::EC2::Instance.Ebs"⟩ { vendor := some "äws" }).2 (Or.inl rfl)
  have hnamespaces := ((hstripped "äws" "ÄWS" ["EC2", "Instance"] rfl hsegments).2 (by decide)).mpr hsmall
  exact hnamespaces.trans (by decide)

/-- A vendor with a capital outside of ASCII is not left out, even where it is spelled as it is set. -/
theorem capital_vendor_kept : ¬ ∀ vendor name first rest, (TypeName.segments name).dropLast = first :: rest →
    lowerText first = lowerText vendor →
      (ofType ⟨.property, name⟩ { vendor := some vendor }).namespaces = rest.map lowerText := by
  intro h
  have hsegments : (TypeName.segments "ÄWS::EC2::Instance.Ebs").dropLast = ["ÄWS", "EC2", "Instance"] := by
    decide
  exact absurd (h "ÄWS" "ÄWS::EC2::Instance.Ebs" "ÄWS" ["EC2", "Instance"] hsegments rfl) (by decide)

end Placement

end Typewright
