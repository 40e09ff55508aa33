import Mathlib.Algebra.Ring.Parity
import Typewright.Proofs.Resolution

/-! # The last segment of a name

Segments are cut off from the left, and the short name of a type is found from the right. What stands behind the last
run of two or more colons is the same for both (`LastRun`). The run itself is cut into pairs: where its length is odd,
one colon is left over, from the right the first of the run, but from the left the last one, which then stands before
what is behind. It belongs to the last segment unless a dot follows. -/

namespace Typewright

namespace Text
variable {cs before behind : List Char} {count : Nat}

/-- A text with its last run of two or more colons: what stands before the run, how many colons, and what is behind. -/
structure LastRun (cs before : List Char) (count : Nat) (behind : List Char) : Prop where
  text : cs = before ++ List.replicate count ':' ++ behind
  long : 2 ≤ count
  starts : before.getLast? ≠ some ':'
  ends : behind.head? ≠ some ':'
  last : ¬ [':', ':'] <:+: behind

theorem not_infix_cons {c : Char} (hc : c = ':' → behind.head? ≠ some ':') (h : ¬ [':', ':'] <:+: behind) :
    ¬ [':', ':'] <:+: c :: behind := by
  rw [List.infix_cons_iff]
  rintro (⟨tail, heq⟩ | hinfix)
  · obtain ⟨rfl, rfl⟩ := List.cons.inj heq
    exact hc rfl rfl
  · exact h hinfix

/-- Two colons that stand together are part of a run, and so there is a last one. -/
theorem exists_lastRun (h : [':', ':'] <:+: cs) : ∃ before count behind, LastRun cs before count behind := by
  induction cs with
  | nil => simp at h
  | cons c rest ih =>
    by_cases hrest : [':', ':'] <:+: rest
    · obtain ⟨before, count, behind, hrun⟩ := ih hrest
      rcases before with _ | ⟨d, before⟩
      · -- The run starts the rest, so `c` lengthens it if it is a colon.
        by_cases hc : c = ':'
        · refine ⟨[], count + 1, behind, ?_, Nat.le_succ_of_le hrun.long, hrun.starts, hrun.ends, hrun.last⟩
          rw [hc, hrun.text, List.replicate_succ]
          rfl
        · refine ⟨[c], count, behind, congrArg (c :: ·) hrun.text, hrun.long, ?_, hrun.ends, hrun.last⟩
          exact fun heq => hc (Option.some.inj heq)
      · exact ⟨c :: d :: before, count, behind, congrArg (c :: ·) hrun.text, hrun.long, hrun.starts, hrun.ends,
          hrun.last⟩
    · rcases List.infix_cons_iff.mp h with ⟨behind, heq⟩ | hinfix
      · obtain ⟨rfl, rfl⟩ := List.cons.inj heq
        refine ⟨[], 2, behind, rfl, Nat.le_refl 2, nofun, fun hhead => hrest ?_, fun hinfix => hrest ?_⟩
        · obtain ⟨tail, rfl⟩ := List.head?_eq_some_iff.mp hhead
          exact ⟨[], tail, rfl⟩
        · exact List.infix_cons hinfix
      · exact absurd hinfix hrest

/-! ### Cutting from the left -/

/-- Where no colon stands before two colons, the text is cut there. -/
theorem splitColons_append (h : before.getLast? ≠ some ':') (rest : List Char) :
    splitColons (before ++ ':' :: ':' :: rest) = splitColons before ++ splitColons rest := by
  fun_induction splitColons before with
  | case1 => rfl
  | case2 before ih =>
    have hlast : before.getLast? ≠ some ':' := fun heq => h (by simp [List.getLast?_cons, heq])
    rw [List.cons_append, List.cons_append, splitColons, ih hlast, List.cons_append]
  | case3 c before hcut ih =>
    have hlast : before.getLast? ≠ some ':' := fun heq => h (by simp [List.getLast?_cons, heq])
    have hcut' : ∀ tail, c = ':' → before ++ ':' :: ':' :: rest = ':' :: tail → False := by
      intro tail hc heq
      cases before with
      | nil => exact h (congrArg some hc)
      | cons d before => exact hcut before hc (by rw [(List.cons.inj heq).1])
    obtain ⟨piece, pieces, hpieces⟩ := List.exists_cons_of_ne_nil (splitColons_ne_nil before)
    rw [List.cons_append, splitColons, ih hlast, hpieces]
    · rfl
    · exact hcut'

/-- A text without two colons together is one piece. -/
theorem splitColons_of_uncut (h : ¬ [':', ':'] <:+: cs) : splitColons cs = [cs] := by
  fun_induction splitColons cs with
  | case1 => rfl
  | case2 rest ih => exact absurd ⟨[], rest, rfl⟩ h
  | case3 c rest hcut ih => rw [ih fun hinfix => h (List.infix_cons hinfix), List.modifyHead_cons]

/-- A run of colons is cut into pairs. -/
theorem splitColons_replicate (n : Nat) (rest : List Char) :
    splitColons (List.replicate (2 * n) ':' ++ rest) = List.replicate n [] ++ splitColons rest := by
  induction n with
  | zero => rfl
  | succ n ih =>
    rw [Nat.mul_succ, List.replicate_succ, List.replicate_succ, List.cons_append, List.cons_append, splitColons, ih,
      List.replicate_succ, List.cons_append]

/-- The last piece is what is behind the last run, with the colon that the run leaves over before it. -/
theorem LastRun.exists_splitColons_eq (h : LastRun cs before count behind) :
    ∃ pieces, splitColons cs = pieces ++ [List.replicate (count % 2) ':' ++ behind] := by
  have huncut : ¬ [':', ':'] <:+: List.replicate (count % 2) ':' ++ behind := by
    rcases Nat.mod_two_eq_zero_or_one count with hzero | hone
    · rw [hzero]
      exact h.last
    · rw [hone]
      exact not_infix_cons (fun _ => h.ends) h.last
  have hcount : count = 2 * (count / 2 - 1) + count % 2 + 2 := by
    have hlong := h.long
    omega
  have htext : cs = before ++ ':' :: ':' :: (List.replicate (2 * (count / 2 - 1)) ':' ++
      (List.replicate (count % 2) ':' ++ behind)) := by
    rw [h.text, ← List.append_assoc (List.replicate _ _), List.replicate_append_replicate, List.append_assoc]
    nth_rewrite 1 [hcount]
    rfl
  refine ⟨splitColons before ++ List.replicate (count / 2 - 1) [], ?_⟩
  rw [htext, splitColons_append h.starts, splitColons_replicate, splitColons_of_uncut huncut, List.append_assoc]

/-! ### Cutting from the right -/

theorem afterColons_append {rest tail : List Char} (h : afterColons rest = some tail) (before : List Char) :
    afterColons (before ++ rest) = some tail := by
  induction before with
  | nil => exact h
  | cons c before ih =>
    rw [List.cons_append]
    unfold afterColons
    rw [ih]

theorem afterColons_eq_none (h : ¬ [':', ':'] <:+: cs) : afterColons cs = none := by
  rwa [← isSome_afterColons_iff, Bool.not_eq_true, Option.isSome_eq_false_iff, Option.isNone_iff_eq_none] at h

/-- Behind the last two colons of the last run the text is as it is. -/
theorem LastRun.afterColons_eq (h : LastRun cs before count behind) : afterColons cs = some behind := by
  have hpair : afterColons (':' :: ':' :: behind) = some behind := by
    rw [afterColons, afterColons_eq_none (not_infix_cons (fun _ => h.ends) h.last)]
    rfl
  obtain ⟨k, rfl⟩ := Nat.exists_eq_add_of_le' h.long
  have htext : cs = (before ++ List.replicate k ':') ++ ':' :: ':' :: behind := by
    rw [h.text, List.replicate_add, List.append_assoc, List.append_assoc, List.append_assoc]
    rfl
  rw [htext]
  exact afterColons_append hpair _

end Text

/-! ### The last segment and the short name -/

namespace TypeName
open Text

theorem getLast?_splitWhere (cs : List Char) : (splitWhere (· == '.') cs).getLast? = some (afterDot cs) := by
  rw [afterDot, List.getLast?_eq_some_getLast (splitWhere_ne_nil _ cs), Option.getD_some]

/-- Before a dot nothing matters. -/
theorem afterDot_append (xs ys : List Char) : afterDot (xs ++ '.' :: ys) = afterDot ys := by
  refine Option.some.inj ?_
  rw [← getLast?_splitWhere, ← getLast?_splitWhere, splitWhere_eq_splitOnP, List.splitOnP_append_cons _ _ (by rfl),
    ← splitWhere_eq_splitOnP, ← splitWhere_eq_splitOnP, List.getLast?_append_of_ne_nil _ (splitWhere_ne_nil _ ys)]

theorem afterDot_of_not_mem {cs : List Char} (h : '.' ∉ cs) : afterDot cs = cs := by
  refine Option.some.inj ?_
  rw [← getLast?_splitWhere, splitWhere_eq_splitOnP, List.splitOnP_eq_singleton, List.getLast?_singleton]
  intro c hc
  exact beq_eq_false_iff_ne.mpr (ne_of_mem_of_not_mem hc h)

/-- The last segment is what follows the last dot of the last piece. -/
theorem getLast?_segments {name : String} {pieces : List (List Char)} {last : List Char}
    (h : splitColons name.toList = pieces ++ [last]) :
    (segments name).getLast? = some (String.ofList (afterDot last)) := by
  rw [segments, List.getLast?_map, segmentChars, h, List.flatMap_append, List.flatMap_singleton,
    List.getLast?_append_of_ne_nil _ (splitWhere_ne_nil _ last), getLast?_splitWhere, Option.map_some]

/-- The last run of two or more colons in a name has an odd length, and no dot follows it. -/
def LeavesColon (name : String) : Prop :=
  ∃ before count behind, LastRun name.toList before count behind ∧ Odd count ∧ '.' ∉ behind

section
variable {name : String}

theorem getLast?_segments_of_leavesColon (h : LeavesColon name) :
    (segments name).getLast? = some (":" ++ short name) := by
  obtain ⟨before, count, behind, hrun, hodd, hdot⟩ := h
  obtain ⟨pieces, hpieces⟩ := hrun.exists_splitColons_eq
  have hdot' : '.' ∉ ':' :: behind := List.not_mem_cons_of_ne_of_not_mem (by decide) hdot
  rw [Nat.odd_iff.mp hodd] at hpieces
  rw [getLast?_segments hpieces, List.replicate_one, List.singleton_append, afterDot_of_not_mem hdot', short,
    shortChars, hrun.afterColons_eq, Option.getD_some, afterDot_of_not_mem hdot, ← List.singleton_append,
    String.ofList_append]

theorem getLast?_segments_of_not_leavesColon (h : ¬ LeavesColon name) :
    (segments name).getLast? = some (short name) := by
  rw [short, shortChars]
  by_cases hcut : [':', ':'] <:+: name.toList
  · obtain ⟨before, count, behind, hrun⟩ := exists_lastRun hcut
    obtain ⟨pieces, hpieces⟩ := hrun.exists_splitColons_eq
    rw [getLast?_segments hpieces, hrun.afterColons_eq, Option.getD_some]
    by_cases hdot : '.' ∈ behind
    · -- Behind the last dot the two agree, whatever stands before.
      obtain ⟨xs, ys, rfl⟩ := List.append_of_mem hdot
      rw [← List.append_assoc, afterDot_append, afterDot_append]
    · have heven : Even count := Nat.not_odd_iff_even.mp fun hodd => h ⟨before, count, behind, hrun, hodd, hdot⟩
      rw [Nat.even_iff.mp heven, List.replicate_zero, List.nil_append]
  · have hpiece : splitColons name.toList = [] ++ [name.toList] := splitColons_of_uncut hcut
    rw [getLast?_segments hpiece, afterColons_eq_none hcut, Option.getD_none]

/-- The last segment of a name is its short name, except where the last run of two or more colons has an odd length and
    no dot follows it: then it is the short name with a colon before it. So a last segment without colons is always
    the short name. -/
theorem last_segment_eq_short_iff (name : String) :
    ((segments name).getLast? = some (short name) ↔ ¬ LeavesColon name) ∧
      (LeavesColon name → (segments name).getLast? = some (":" ++ short name)) ∧
      ∀ last, (segments name).getLast? = some last → ':' ∉ last.toList → last = short name := by
  refine ⟨⟨fun hshort hleaves => ?_, getLast?_segments_of_not_leavesColon⟩, getLast?_segments_of_leavesColon, ?_⟩
  · rw [getLast?_segments_of_leavesColon hleaves, Option.some.injEq] at hshort
    have hlength := congrArg String.length hshort
    rw [String.length_append] at hlength
    exact absurd hlength (by simp)
  · intro last hlast hcolon
    by_cases hleaves : LeavesColon name
    · rw [getLast?_segments_of_leavesColon hleaves, Option.some.injEq] at hlast
      exact absurd (hlast ▸ by simp) hcolon
    · rw [getLast?_segments_of_not_leavesColon hleaves, Option.some.injEq] at hlast
      exact hlast.symm

/-- Of three colons the first two separate from the left, and the last two from the right. -/
theorem last_segment_eq_short_iff_threeColons : LeavesColon "Lab:::Rack" ∧
    (segments "Lab:::Rack").getLast? = some (":" ++ short "Lab:::Rack") := by
  have hrun : LastRun "Lab:::Rack".toList ['L', 'a', 'b'] 3 ['R', 'a', 'c', 'k'] :=
    ⟨by decide, by decide, by decide, by decide, by decide⟩
  have hleaves : LeavesColon "Lab:::Rack" := ⟨_, _, _, hrun, by decide, by decide⟩
  exact ⟨hleaves, (last_segment_eq_short_iff "Lab:::Rack").2.1 hleaves⟩

end

end TypeName

end Typewright
