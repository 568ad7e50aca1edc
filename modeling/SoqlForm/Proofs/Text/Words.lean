import SoqlForm.Proofs.Text.Blank
import SoqlForm.Proofs.Text.Split
import SoqlForm.Text.Case

/-!
# Text: words

A text spaces its words out: blanks stand between two words, and perhaps before the first one and
behind the last one.  The words of a text are those that it spaces out, and upper case changes
neither the blanks nor where a word ends.

* `IsWord`, `Spaced`    a word, and a text that spaces words out;
* `words_eq_iff`        the words of a text are those that it spaces out;
* `words_intercalate`   words with a space between them are found again;
* `words_upper`         the words of a text in upper case are its words in upper case;
* `upper_trim_eq_iff`   a trimmed text is one word just if the text has this word alone.
-/

namespace SoqlForm.Text

def IsWord (w : List Char) : Prop := w ≠ [] ∧ ∀ c ∈ w, isBlank c = false

/-- a text that spaces words out -/
inductive Spaced : List (List Char) → List Char → Prop
  | blanks {b : List Char} (blank : ∀ c ∈ b, isBlank c = true) : Spaced [] b
  | word {b w r : List Char} {ws : List (List Char)} (blank : ∀ c ∈ b, isBlank c = true)
      (isWord : IsWord w) (ends : Stops isBlank r) (rest : Spaced ws r) :
      Spaced (w :: ws) (b ++ (w ++ r))

variable {b w r cs : List Char} {ws : List (List Char)}

theorem spaced_word (hw : IsWord w) (hr : Stops isBlank r) (rest : Spaced ws r) :
    Spaced (w :: ws) (w ++ r) :=
  .word (b := []) nofun hw hr rest

theorem Spaced.isWord (h : Spaced ws cs) : ∀ w ∈ ws, IsWord w := by
  induction h with
  | blanks _ => exact nofun
  | word _ isWord _ _ ih => exact List.forall_mem_cons.mpr ⟨isWord, ih⟩

theorem Spaced.cons_blank {c : Char} (h : Spaced ws cs) (hc : isBlank c = true) :
    Spaced ws (c :: cs) := by
  cases h with
  | blanks blank => exact .blanks (List.forall_mem_cons.mpr ⟨hc, blank⟩)
  | word blank isWord ends rest =>
    rw [← List.cons_append]
    exact .word (List.forall_mem_cons.mpr ⟨hc, blank⟩) isWord ends rest

/-! ### the words of a text -/

theorem pieces_append {p : Char → Bool} (hw : ∀ c ∈ w, p c = false) (r : List Char) :
    pieces p (w ++ r) = (pieces p r).modifyHead (w ++ ·) := by
  induction w with
  | nil =>
    show pieces p r = (pieces p r).modifyHead id
    rw [List.modifyHead_id, id]
  | cons c w ih =>
    obtain ⟨hc, hw⟩ := List.forall_mem_cons.mp hw
    rw [List.cons_append, pieces_cons_of_not_sep hc, ih hw, List.modifyHead_modifyHead]
    rfl

theorem words_cons_blank {c : Char} (hc : isBlank c = true) (cs : List Char) :
    words (c :: cs) = words cs := by
  rw [words, pieces_cons_of_sep hc]
  rfl

theorem words_append_of_blank (hb : ∀ c ∈ b, isBlank c = true) (cs : List Char) :
    words (b ++ cs) = words cs := by
  induction b with
  | nil => rfl
  | cons c b ih =>
    obtain ⟨hc, hb⟩ := List.forall_mem_cons.mp hb
    rw [List.cons_append, words_cons_blank hc, ih hb]

/-- a word is found where a blank, or nothing, follows it -/
theorem words_word_append (hw : IsWord w) (hr : Stops isBlank r) :
    words (w ++ r) = w :: words r := by
  have hkept : (!w.isEmpty) = true := by simpa using hw.1
  rw [words, pieces_append hw.2]
  cases r with
  | nil =>
    rw [pieces_nil, List.modifyHead_cons, List.append_nil, List.filter_cons, if_pos hkept]
    rfl
  | cons c r =>
    have hc : isBlank c = true := hr c rfl
    rw [words_cons_blank hc, pieces_cons_of_sep hc, List.modifyHead_cons, List.append_nil,
      List.filter_cons, if_pos hkept]
    rfl

theorem Spaced.words_eq (h : Spaced ws cs) : words cs = ws := by
  induction h with
  | blanks blank =>
    have hnone := words_append_of_blank blank []
    rwa [List.append_nil] at hnone
  | word blank isWord ends _ ih =>
    rw [words_append_of_blank blank, words_word_append isWord ends, ih]

/-- every text spaces some words out -/
theorem exists_spaced (cs : List Char) : ∃ ws, Spaced ws cs := by
  induction cs with
  | nil => exact ⟨[], .blanks nofun⟩
  | cons c cs ih =>
    obtain ⟨ws, h⟩ := ih
    cases hc : isBlank c with
    | true => exact ⟨ws, h.cons_blank hc⟩
    | false =>
      have hone : IsWord [c] := ⟨List.cons_ne_nil _ _, List.forall_mem_singleton.mpr hc⟩
      -- the character begins a word of its own, or it belongs to the first word behind it
      cases h with
      | blanks blank =>
        refine ⟨[[c]], spaced_word hone ?_ (.blanks blank)⟩
        exact fun x hx => blank x (List.mem_of_mem_head? hx)
      | word blank isWord ends rest =>
        rename_i b w r ws
        cases b with
        | nil =>
          have hlonger : IsWord (c :: w) :=
            ⟨List.cons_ne_nil _ _, List.forall_mem_cons.mpr ⟨hc, isWord.2⟩⟩
          exact ⟨(c :: w) :: ws, spaced_word hlonger ends rest⟩
        | cons x b =>
          have hx : isBlank x = true := blank x List.mem_cons_self
          exact ⟨[c] :: w :: ws, spaced_word hone (stops_cons hx _) (.word blank isWord ends rest)⟩

/-- **The words of a text are those that it spaces out.** -/
theorem words_eq_iff : words cs = ws ↔ Spaced ws cs := by
  constructor
  · rintro rfl
    obtain ⟨ws, h⟩ := exists_spaced cs
    rwa [h.words_eq]
  · exact Spaced.words_eq

theorem spaced_words (cs : List Char) : Spaced (words cs) cs := words_eq_iff.mp rfl

/-- words with a space between them are found again -/
theorem words_intercalate (h : ∀ w ∈ ws, IsWord w) : words ([' '].intercalate ws) = ws := by
  induction ws with
  | nil => rfl
  | cons w ws ih =>
    obtain ⟨hw, hws⟩ := List.forall_mem_cons.mp h
    cases ws with
    | nil =>
      have hlast := words_word_append (r := []) hw nofun
      rw [List.append_nil] at hlast
      rw [List.intercalate_singleton, hlast, words_nil]
    | cons v ws =>
      have hspace : isBlank ' ' = true := by decide
      rw [List.intercalate_cons_cons, List.append_assoc, List.singleton_append,
        words_word_append hw (stops_cons hspace _), words_cons_blank hspace, ih hws]

/-! ### words in upper case -/

/-- a character is kept, or it is a small letter that becomes a capital -/
theorem toUpper_eq_or (c : Char) :
    c.toUpper = c ∨ ('a' ≤ c ∧ c ≤ 'z') ∧ 'A' ≤ c.toUpper ∧ c.toUpper ≤ 'Z' := by
  by_cases small : 'a'.val ≤ c.val ∧ c.val ≤ 'z'.val
  · have changed : c.toUpper = ⟨c.val + ('A'.val - 'a'.val), _⟩ := dif_pos small
    have shifted : c.toUpper.toNat = (c.toNat + 4294967264) % 4294967296 := by
      rw [changed]
      exact UInt32.toNat_add _ _
    have ha : 97 ≤ c.toNat := UInt32.le_iff_toNat_le.mp small.1
    have hz : c.toNat ≤ 122 := UInt32.le_iff_toNat_le.mp small.2
    have hA : 65 ≤ c.toUpper.toNat := by omega
    have hZ : c.toUpper.toNat ≤ 90 := by omega
    exact .inr ⟨small, UInt32.le_iff_toNat_le.mpr hA, UInt32.le_iff_toNat_le.mpr hZ⟩
  · exact .inl (dif_neg small)

theorem isBlank_of_letter {c : Char} (hA : 'A' ≤ c) (hz : c ≤ 'z') : isBlank c = false := by
  have apart : blanks.all (fun x => x.toNat < 65 || 122 < x.toNat) = true := by decide
  rw [Bool.eq_false_iff]
  intro hb
  have hc := List.all_eq_true.mp apart c (isBlank_iff.mp hb)
  rw [Bool.or_eq_true, decide_eq_true_eq, decide_eq_true_eq] at hc
  have hA : 65 ≤ c.toNat := UInt32.le_iff_toNat_le.mp hA
  have hz : c.toNat ≤ 122 := UInt32.le_iff_toNat_le.mp hz
  omega

theorem isBlank_toUpper (c : Char) : isBlank c.toUpper = isBlank c := by
  rcases toUpper_eq_or c with h | ⟨⟨ha, hz⟩, hA, hZ⟩
  · rw [h]
  · rw [isBlank_of_letter (Char.le_trans (by decide) ha) hz,
      isBlank_of_letter hA (Char.le_trans hZ (by decide))]

theorem upper_append (a b : List Char) : upper (a ++ b) = upper a ++ upper b := List.map_append

theorem isWord_upper (w : List Char) : IsWord (upper w) ↔ IsWord w := by
  simp only [IsWord, upper, ne_eq, List.map_eq_nil_iff, List.forall_mem_map, isBlank_toUpper]

theorem Spaced.upper (h : Spaced ws cs) : Spaced (ws.map upper) (upper cs) := by
  have blank : ∀ {b : List Char}, (∀ c ∈ b, isBlank c = true) → ∀ c ∈ Text.upper b,
      isBlank c = true := by
    intro b hb
    refine List.forall_mem_map.mpr fun c hc => ?_
    rw [isBlank_toUpper]
    exact hb c hc
  induction h with
  | blanks hb => exact .blanks (blank hb)
  | word hb isWord ends rest ih =>
    rename_i w r ws
    rw [upper_append, upper_append]
    refine .word (blank hb) ((isWord_upper w).mpr isWord) ?_ ih
    cases r with
    | nil => exact nofun
    | cons c r => exact stops_cons ((isBlank_toUpper c).trans (ends c rfl)) _

theorem words_upper (cs : List Char) : words (upper cs) = (words cs).map upper :=
  (spaced_words cs).upper.words_eq

theorem upper_intercalate (ws : List (List Char)) :
    upper ([' '].intercalate ws) = [' '].intercalate (ws.map upper) := by
  induction ws with
  | nil => rfl
  | cons w ws ih =>
    cases ws with
    | nil => rw [List.map_singleton, List.intercalate_singleton, List.intercalate_singleton]
    | cons v ws =>
      show _ = [' '].intercalate (upper w :: upper v :: ws.map upper)
      rw [List.intercalate_cons_cons, List.intercalate_cons_cons, upper_append, upper_append, ih]
      rfl

/-! ### texts of one word -/

theorem trim_eq_iff (hw : IsWord w) : trim cs = w ↔ words cs = [w] := by
  rw [words_eq_iff]
  constructor
  · rintro rfl
    obtain ⟨a, c, hcs, ha, hc⟩ := trim_parts cs
    have alone : Spaced [trim cs] (a ++ (trim cs ++ c)) :=
      .word ha hw (fun x hx => hc x (List.mem_of_mem_head? hx)) (.blanks hc)
    rwa [← hcs] at alone
  · intro h
    cases h with
    | word ha _ _ rest =>
      cases rest with
      | blanks hc => exact trim_of_isTrimmed ha hc (isTrimmed_of_not_isBlank hw.2)

theorem upper_trim_eq_iff (hw : IsWord w) : upper (trim cs) = w ↔ (words cs).map upper = [w] := by
  rw [List.map_eq_singleton_iff]
  constructor
  · intro h
    have htrim : IsWord (trim cs) := (isWord_upper _).mp (h ▸ hw)
    exact ⟨trim cs, (trim_eq_iff htrim).mp rfl, h⟩
  · rintro ⟨v, hv, rfl⟩
    rw [(trim_eq_iff ((isWord_upper v).mp hw)).mpr hv]

end SoqlForm.Text
