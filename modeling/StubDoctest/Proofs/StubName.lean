import StubDoctest.Session.Run

/-!
# Which files are collected as stubs

A session with `--stubs` collects a file when the suffix of its name, in lower case, is `.pyi`.
The suffix runs from the last dot of the name, and only when that dot is neither the first nor
the last character. Lower case maps a capital sigma by its neighbours, so a character's lower
case can depend on its context; it cannot here, since a sigma's lower case is never in `pyi`,
and a dot, like every ASCII character but a capital letter, is its own lower case.

Main statement: a file is collected exactly when `--stubs` is given and its name is some
non-empty text, a dot and a last part whose lower case is `pyi` (`collects_iff_stub_name`).
-/

set_option autoImplicit false

namespace StubDoctest.Session

open StubDoctest.Text

/-! ## The last dot of a name -/

/-- Scanning the indices below `n` from the top, the first that satisfies `p` is the greatest. -/
theorem find?_reverse_range_eq_some_iff {p : Nat → Bool} {i : Nat} :
    ∀ {n : Nat}, (List.range n).reverse.find? p = some i ↔
      i < n ∧ p i = true ∧ ∀ j, i < j → j < n → p j = false
  | 0 => by simp
  | n + 1 => by
    rw [List.range_succ, List.reverse_append, List.reverse_singleton, List.singleton_append,
      List.find?_cons]
    cases hn : p n with
    | true =>
      -- the top index is taken: it is `i` exactly when nothing lies above `i`
      simp only [Option.some.injEq]
      constructor
      · rintro rfl
        exact ⟨by omega, hn, fun j hj hj' => by omega⟩
      · rintro ⟨hi, hpi, habove⟩
        rcases Nat.lt_or_ge i n with hlt | hge
        · have := habove n hlt (by omega)
          rw [hn] at this
          cases this
        · omega
    | false =>
      rw [find?_reverse_range_eq_some_iff]
      constructor
      · rintro ⟨hi, hpi, habove⟩
        refine ⟨by omega, hpi, fun j hj hj' => ?_⟩
        rcases Nat.lt_succ_iff_lt_or_eq.1 hj' with hj' | rfl
        · exact habove j hj hj'
        · exact hn
      · rintro ⟨hi, hpi, habove⟩
        have hin : i ≠ n := fun h => by rw [h, hn] at hpi; cases hpi
        exact ⟨by omega, hpi, fun j hj hj' => habove j hj (by omega)⟩

/-- A name has a suffix exactly when it is a non-empty part, a dot, and a non-empty last part
without dots; the suffix is the dot and the last part. -/
theorem suffixOf_ne_empty {name : String} (h : suffixOf name ≠ "") :
    ∃ x t, name.toList = x ++ '.' :: t ∧ x ≠ [] ∧ t ≠ [] ∧ '.' ∉ t ∧
      suffixOf name = String.ofList ('.' :: t) := by
  unfold suffixOf at h ⊢
  dsimp only at h ⊢
  split at h
  · rename_i i hi
    obtain ⟨hlt, hdot, habove⟩ := find?_reverse_range_eq_some_iff.1 hi
    split at h
    · rename_i hbounds
      simp only [Bool.and_eq_true, decide_eq_true_eq] at hbounds
      have hget : name.toList[i]? = some '.' := by simpa using hdot
      have hdrop : name.toList.drop i = '.' :: name.toList.drop (i + 1) := by
        rw [List.drop_eq_getElem_cons hlt]
        simp only [List.getElem?_eq_getElem hlt, Option.some.injEq] at hget
        rw [hget]
      refine ⟨name.toList.take i, name.toList.drop (i + 1), ?_, ?_, ?_, ?_, ?_⟩
      · rw [← hdrop, List.take_append_drop]
      · exact List.ne_nil_of_length_pos (by rw [List.length_take]; omega)
      · exact List.ne_nil_of_length_pos (by rw [List.length_drop]; omega)
      · -- a dot after `i` would be a later dot
        intro hmem
        obtain ⟨k, hk, hkdot⟩ := List.getElem_of_mem hmem
        have hnot := habove (i + 1 + k) (by omega) (by simp at hk; omega)
        simp only [List.getElem_drop] at hkdot
        simp [List.getElem?_eq_getElem (show i + 1 + k < name.toList.length by simp at hk; omega),
          hkdot] at hnot
      · rw [if_pos (by simpa using hbounds), hdrop]
    · exact absurd rfl h
  · exact absurd rfl h

/-- The suffix of a name that is a non-empty part, a dot and a non-empty last part without
dots is the dot and the last part. -/
theorem suffixOf_eq_of_last_dot {name : String} {x t : List Char} (hname : name.toList = x ++ '.' :: t)
    (hx : x ≠ []) (ht : t ≠ []) (hdot : '.' ∉ t) :
    suffixOf name = String.ofList ('.' :: t) := by
  have hlen : name.toList.length = x.length + 1 + t.length := by simp [hname]; omega
  have hfind : (List.range name.toList.length).reverse.find?
      (fun i => name.toList[i]? == some '.') = some x.length := by
    refine find?_reverse_range_eq_some_iff.2 ⟨by omega, by simp [hname], fun j hj hj' => ?_⟩
    -- every index past the dot falls in the last part
    have hj'' : j - (x.length + 1) < t.length := by omega
    have hget : name.toList[j]? = t[j - (x.length + 1)]? := by
      rw [hname, List.getElem?_append_right (by omega)]
      rw [show j - x.length = (j - (x.length + 1)) + 1 by omega, List.getElem?_cons_succ]
    have hne : t[j - (x.length + 1)] ≠ '.' := fun h => hdot (h ▸ List.getElem_mem hj'')
    rw [hget, List.getElem?_eq_getElem hj'']
    simpa using hne
  have hbounds : 0 < x.length ∧ x.length + 1 < name.toList.length := by
    have hx' := List.length_pos_iff.2 hx
    have ht' := List.length_pos_iff.2 ht
    omega
  unfold suffixOf
  dsimp only
  simp only [hfind]
  rw [if_pos (by simpa using hbounds), hname, List.drop_left]

/-! ## Lower case in context -/

/-- Each character of a text leaves its mapping, in some context, as a piece of the mapped
text. -/
theorem infix_mapInContext {f : List Char → Char → List Char → List Char} {c : Char} :
    ∀ (before t : List Char), c ∈ t → ∃ b a, f b c a <:+: mapInContext f before t
  | _, [], h => absurd h List.not_mem_nil
  | before, d :: t, h => by
    rw [mapInContext]
    rcases List.mem_cons.1 h with rfl | h
    · exact ⟨before, t, (List.prefix_append _ _).isInfix⟩
    · obtain ⟨b, a, hba⟩ := infix_mapInContext (d :: before) t h
      exact ⟨b, a, hba.trans (List.suffix_append _ _).isInfix⟩

/-- The lower case of a character other than a capital sigma ignores its context. -/
theorem lowerInContext_of_ne_sigma {c : Char} (hc : c.toNat ≠ 0x3a3) (b a : List Char) :
    lowerInContext b c a = lowerChars c := by
  simp [lowerInContext, hc]

/-- A capital sigma's lower case is a small sigma, final or medial. -/
theorem lowerInContext_sigma {c : Char} (hc : c.toNat = 0x3a3) (b a : List Char) :
    lowerInContext b c a = ['ς'] ∨ lowerInContext b c a = ['σ'] := by
  simp only [lowerInContext, if_pos hc]
  split <;> simp

theorem mapInContext_lower_of_no_sigma :
    ∀ {before t : List Char}, (∀ c ∈ t, c.toNat ≠ 0x3a3) →
      mapInContext lowerInContext before t = t.flatMap lowerChars
  | _, [], _ => rfl
  | before, c :: t, h => by
    rw [mapInContext, lowerInContext_of_ne_sigma (h c (List.mem_cons_self ..)),
      mapInContext_lower_of_no_sigma fun d hd => h d (List.mem_cons_of_mem _ hd), List.flatMap_cons]

/-- Whether a text's lower case is `pyi` does not depend on what stands before the text. -/
theorem mapInContext_lower_eq_pyi_iff (t : List Char) (b b' : List Char) :
    mapInContext lowerInContext b t = "pyi".toList ↔
      mapInContext lowerInContext b' t = "pyi".toList := by
  by_cases hsig : ∃ c ∈ t, c.toNat = 0x3a3
  · -- a capital sigma leaves a small sigma, which `pyi` does not hold
    obtain ⟨c, hc, hsigma⟩ := hsig
    have hnone : ∀ before, mapInContext lowerInContext before t ≠ "pyi".toList := by
      intro before heq
      obtain ⟨b₀, a₀, hinf⟩ := infix_mapInContext (f := lowerInContext) before t hc
      rw [heq] at hinf
      rcases lowerInContext_sigma hsigma b₀ a₀ with h | h <;> rw [h] at hinf
      · exact absurd (hinf.subset (List.mem_singleton_self _)) (by simp)
      · exact absurd (hinf.subset (List.mem_singleton_self _)) (by simp)
    exact ⟨fun h => absurd h (hnone b), fun h => absurd h (hnone b')⟩
  · simp only [not_exists, not_and] at hsig
    rw [mapInContext_lower_of_no_sigma hsig, mapInContext_lower_of_no_sigma hsig]

theorem lowerChars_dot : lowerChars '.' = ['.'] := by decide

theorem toList_lower (s : List Char) :
    (lower (String.ofList s)).toList = mapInContext lowerInContext [] s := by
  simp [lower]

/-- A dot and a text are `.pyi` in lower case exactly when the text is `pyi` in lower case. -/
theorem lower_dot_cons_eq_iff {t : List Char} :
    lower (String.ofList ('.' :: t)) = ".pyi" ↔ lower (String.ofList t) = "pyi" := by
  rw [← String.toList_inj, ← String.toList_inj, toList_lower, toList_lower, mapInContext,
    lowerInContext_of_ne_sigma (by decide), lowerChars_dot]
  have hdot : ".pyi".toList = '.' :: "pyi".toList := by simp
  rw [hdot, List.singleton_append, List.cons.injEq]
  simp only [true_and]
  exact mapInContext_lower_eq_pyi_iff t _ _

/-! ## Stub names -/

/-- A file is a stub exactly when its name is a non-empty part, a dot and a last part whose lower
case is `pyi`. -/
theorem isStub_iff (path : String) :
    isStub path = true ↔
      ∃ x t : String, baseName path = x ++ "." ++ t ∧ x ≠ "" ∧ lower t = "pyi" := by
  unfold isStub
  rw [beq_iff_eq]
  constructor
  · intro h
    have hne : suffixOf (baseName path) ≠ "" := by
      intro he
      rw [he] at h
      exact absurd h (by decide)
    obtain ⟨x, t, hname, hx, -, -, hsuf⟩ := suffixOf_ne_empty hne
    rw [hsuf, lower_dot_cons_eq_iff] at h
    refine ⟨String.ofList x, String.ofList t, ?_, by simpa using hx, h⟩
    rw [← String.toList_inj, hname]
    simp
  · rintro ⟨x, t, hname, hx, ht⟩
    have hpyi : mapInContext lowerInContext [] t.toList = "pyi".toList := by
      rw [← toList_lower, String.ofList_toList, ht]
    -- the last part holds no dot, since a dot is its own lower case
    have hdot : '.' ∉ t.toList := fun hmem => by
      obtain ⟨b, a, hinf⟩ := infix_mapInContext (f := lowerInContext) [] t.toList hmem
      rw [hpyi, lowerInContext_of_ne_sigma (by decide), lowerChars_dot] at hinf
      exact absurd (hinf.subset (List.mem_singleton_self _)) (by simp)
    have htne : t.toList ≠ [] := fun he => by
      rw [he] at hpyi
      exact absurd hpyi (by simp [mapInContext])
    have hsplit : (baseName path).toList = x.toList ++ '.' :: t.toList := by
      rw [hname]
      simp
    have hsuf := suffixOf_eq_of_last_dot hsplit (by simpa using hx) htne hdot
    rw [hsuf, lower_dot_cons_eq_iff, String.ofList_toList, ht]

/-- A file is collected exactly when `--stubs` is given and its name is a non-empty part, a dot
and a last part whose lower case is `pyi`. -/
theorem collects_iff_stub_name (o : Options) (path : String) :
    (o.stubs && isStub path) = true ↔
      o.stubs = true ∧ ∃ x t : String, baseName path = x ++ "." ++ t ∧ x ≠ "" ∧ lower t = "pyi" := by
  rw [Bool.and_eq_true, isStub_iff]

example : isStub "A.PYI" ∧ isStub "a.b.pyi" ∧ isStub "dir/..pyi" ∧ !isStub ".pyi" ∧
    !isStub "a.pyi." ∧ !isStub "a.pyi.txt" ∧ !isStub "a.py" := by
  decide +kernel

end StubDoctest.Session
