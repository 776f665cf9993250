/-
  What reading JSON leaves, and when it ends with a fault.

  * `Follows rest cs`: what is left after something has been read from the front;
  * `readValue_isRead`: whatever is read has a front of the text, and integers that
    are read can be written out (`read_isWritable`);
  * `read_tame`: a text whose integers have no more digits than can be read, and
    whose brackets nest no deeper than is followed, is read or ends with a fault at a
    place of it; so the fuel never runs out.
-/
import CxxWriter.Proofs.Entries
import CxxWriter.Proofs.NumberText

namespace CxxWriter.Json

/-! ## What is left -/

/-- Is this what is left of a text from whose front something has been read? -/
structure Follows (rest cs : List Char) : Prop where
  suffix : rest <:+ cs
  shorter : rest.length < cs.length

namespace Follows

variable {rest mid cs : List Char}

theorem of_cons {c : Char} (h : rest <:+ cs) : Follows rest (c :: cs) :=
  ⟨h.trans (List.suffix_cons c cs), Nat.lt_succ_of_le h.length_le⟩

theorem trans_suffix (h : Follows rest mid) (hm : mid <:+ cs) : Follows rest cs :=
  ⟨h.suffix.trans hm, Nat.lt_of_lt_of_le h.shorter hm.length_le⟩

theorem of_suffix (h : rest <:+ mid) (hm : Follows mid cs) : Follows rest cs :=
  ⟨h.trans hm.suffix, Nat.lt_of_le_of_lt h.length_le hm.shorter⟩

theorem append {front : List Char} (h : front ≠ []) : Follows rest (front ++ rest) where
  suffix := List.suffix_append front rest
  shorter := by
    rw [List.length_append]
    have := List.length_pos_iff.2 h
    omega

end Follows

theorem skipSpace_suffix (cs : List Char) : skipSpace cs <:+ cs := List.dropWhile_suffix _

/-! ## Texts -/

theorem takeHex?_suffix {width n : Nat} {cs rest : List Char}
    (h : Template.takeHex? width cs = some (n, rest)) : rest <:+ cs := by
  unfold Template.takeHex? at h
  dsimp only at h
  split at h
  · cases h
    exact List.drop_suffix _ _
  · cases h

theorem takeLow?_suffix {n : Nat} {cs rest : List Char} (h : takeLow? cs = .ok (some (n, rest))) :
    rest <:+ cs := by
  unfold takeLow? at h
  split at h
  · split at h
    · cases h
    · split at h
      · cases h
      · next hx =>
        split at h <;> cases h
        exact ((takeHex?_suffix hx).trans (List.suffix_cons _ _)).trans (List.suffix_cons _ _)
  · cases h

theorem unicodeEscape_suffix {x : Char} {cs rest : List Char}
    (h : unicodeEscape cs = .ok (x, rest)) : rest <:+ cs := by
  unfold unicodeEscape at h
  split at h
  · cases h
  · next hu =>
    have hunit : ∀ {n : Nat} {after : List Char}, takeUnit? cs = some (n, after) → after <:+ cs := by
      intro n after hu
      unfold takeUnit? at hu
      split at hu
      · next hx =>
        cases hu
        exact takeHex?_suffix hx
      · cases hu
    split at h
    · obtain ⟨low, hlow, h⟩ := exists_of_bind_ok h
      cases low with
      | some low =>
        have hrest : low.2 = rest := congrArg Prod.snd (Except.ok.inj h)
        rw [← hrest]
        exact (takeLow?_suffix hlow).trans (hunit hu)
      | none =>
        cases h
        exact hunit hu
    · cases h
      exact hunit hu

theorem readText_follows {start fuel : Nat} {cs t rest : List Char}
    (h : readText start fuel cs = .ok (t, rest)) : Follows rest cs := by
  induction fuel generalizing cs t with
  | zero => cases h
  | succ fuel ih =>
    rw [readText.eq_def] at h
    dsimp only at h
    split at h
    · cases h
    · cases h
    · -- the closing quote
      cases h
      exact .of_cons List.suffix_rfl
    · cases h
    · next heq =>
      -- behind a backslash stands the number of a character, or one that is short for it
      cases heq
      split at h
      · obtain ⟨⟨x, after⟩, hx, h⟩ := exists_of_bind_ok h
        obtain ⟨⟨t', rest'⟩, ht, h⟩ := exists_of_bind_ok h
        cases h
        exact (ih ht).trans_suffix (((unicodeEscape_suffix hx).trans (List.suffix_cons _ _)).trans
          (List.suffix_cons _ _))
      · split at h
        · obtain ⟨⟨t', rest'⟩, ht, h⟩ := exists_of_bind_ok h
          cases h
          exact (ih ht).trans_suffix ((List.suffix_cons _ _).trans (List.suffix_cons _ _))
        · cases h
    · next heq =>
      cases heq
      split at h
      · cases h
      · obtain ⟨⟨t', rest'⟩, ht, h⟩ := exists_of_bind_ok h
        cases h
        exact (ih ht).trans_suffix (List.suffix_cons _ _)

theorem textAfterQuote_follows {cs rest : List Char} {s : String}
    (h : textAfterQuote cs = .ok (s, rest)) : Follows rest cs := by
  obtain ⟨⟨t, rest'⟩, ht, h⟩ := exists_of_bind_ok h
  cases h
  exact readText_follows ht

/-! ## Numbers -/

theorem takeWhole?_spec {cs whole rest : List Char} (h : takeWhole? cs = some (whole, rest)) :
    cs = whole ++ rest ∧ whole ≠ [] ∧ ∀ c ∈ whole, c.isDigit = true := by
  unfold takeWhole? at h
  split at h
  · cases h
    exact ⟨rfl, nofun, List.forall_mem_singleton.2 rfl⟩
  · next c _ _ =>
    split at h
    · next hc =>
      cases h
      refine ⟨List.takeWhile_append_dropWhile.symm, ?_, fun d hd => List.all_eq_true.1 List.all_takeWhile d hd⟩
      rw [List.takeWhile_cons, if_pos hc]
      exact List.cons_ne_nil _ _
    · cases h
  · cases h

theorem takeExponent?_suffix {cs rest : List Char} {e : Int}
    (h : Double.takeExponent? cs = some (e, rest)) : rest <:+ cs := by
  unfold Double.takeExponent? at h
  split at h
  · next c cs =>
    have hdigits : ∀ (negative : Bool) (ds : List Char), ds <:+ cs →
        (if (Double.takeDigits ds).2.1 = 0 then none
          else some (if negative = true then -((Double.takeDigits ds).1 : Int)
            else (Double.takeDigits ds).1, (Double.takeDigits ds).2.2)) = some (e, rest) →
        rest <:+ c :: cs := by
      intro negative ds hds h
      split at h
      · cases h
      · cases h
        exact ((List.dropWhile_suffix _).trans hds).trans (List.suffix_cons _ _)
    split at h
    · dsimp only at h
      split at h
      · exact hdigits true _ (List.suffix_cons _ _) h
      · exact hdigits false _ (List.suffix_cons _ _) h
      · exact hdigits false _ List.suffix_rfl h
    · cases h
  · cases h

/-- Digits stand for a number below the power of ten with as many zeros. -/
theorem takeDigits_lt (cs : List Char) : (Double.takeDigits cs).1 < tenTo cs.length := by
  have hfold : ∀ (ds : List Char) (n : Nat), (∀ c ∈ ds, c.isDigit = true) →
      ds.foldl (fun n c => n * 10 + (c.toNat - 48)) n < (n + 1) * 10 ^ ds.length := by
    intro ds
    induction ds with
    | nil =>
      intro n _
      simp
    | cons c ds ih =>
      intro n hds
      have hc : c.toNat - 48 ≤ 9 := by
        have hdigit := hds c List.mem_cons_self
        simp only [Char.isDigit, Bool.and_eq_true, decide_eq_true_eq, UInt32.le_iff_toNat_le] at hdigit
        have hle : c.toNat ≤ 57 := hdigit.2
        omega
      have hstep := ih (n * 10 + (c.toNat - 48)) fun d hd => hds d (List.mem_cons_of_mem c hd)
      calc (c :: ds).foldl (fun n c => n * 10 + (c.toNat - 48)) n
          < (n * 10 + (c.toNat - 48) + 1) * 10 ^ ds.length := hstep
        _ ≤ ((n + 1) * 10) * 10 ^ ds.length := Nat.mul_le_mul_right _ (by omega)
        _ = (n + 1) * 10 ^ (c :: ds).length := by
          rw [List.length_cons, Nat.pow_succ, Nat.mul_assoc, Nat.mul_comm 10]
  have hdigits := hfold (cs.takeWhile Char.isDigit) 0 fun d hd =>
    List.all_eq_true.1 List.all_takeWhile d hd
  rw [Nat.zero_add, Nat.one_mul] at hdigits
  exact Nat.lt_of_lt_of_le hdigits (Double.tenTo_le (List.takeWhile_prefix _).length_le)

/-- An integer that is read has few enough digits to be written out. -/
theorem isShort_takeDigits {whole : List Char} (h : ¬ Text.maxDigits < whole.length)
    (negative : Bool) :
    Value.isShort (if negative then -((Double.takeDigits whole).1 : Int)
      else (Double.takeDigits whole).1) = true := by
  have hlt : (Double.takeDigits whole).1 < tenTo Text.maxDigits :=
    Nat.lt_of_lt_of_le (takeDigits_lt whole) (Double.tenTo_le (Nat.not_lt.1 h))
  rw [Value.isShort, decide_eq_true_eq]
  cases negative with
  | true => rwa [if_pos rfl, Int.natAbs_neg, Int.natAbs_natCast]
  | false => rwa [if_neg Bool.false_ne_true, Int.natAbs_natCast]

/-- Has what was read a text, and a front of its own? -/
structure IsRead (cs : List Char) (v : Value) (rest : List Char) : Prop where
  writable : v.isWritable = true
  follows : Follows rest cs

theorem takeSign_suffix (cs : List Char) : (takeSign cs).2 <:+ cs := by
  unfold takeSign
  split
  · exact List.suffix_cons _ _
  · exact List.suffix_rfl

theorem takeFraction_suffix (cs : List Char) : (takeFraction cs).2 <:+ cs := by
  unfold takeFraction
  split
  · split
    · exact (List.dropWhile_suffix _).trans (List.suffix_cons _ _)
    · exact List.suffix_rfl
  · exact List.suffix_rfl

theorem takeWhole?_follows {cs whole rest : List Char}
    (h : takeWhole? (takeSign cs).2 = some (whole, rest)) : Follows rest cs := by
  obtain ⟨hsplit, hne, _⟩ := takeWhole?_spec h
  refine .trans_suffix (.append hne) ?_
  rw [← hsplit]
  exact takeSign_suffix cs

theorem readNumber_isRead {cs rest : List Char} {v : Value} (h : readNumber cs = .ok (v, rest)) :
    IsRead cs v rest := by
  unfold readNumber at h
  dsimp only at h
  split at h
  · cases h
  · next whole after hwhole =>
    have hafter : Follows (takeFraction after).2 cs :=
      .of_suffix (takeFraction_suffix after) (takeWhole?_follows hwhole)
    split at h
    · split at h
      · cases h
      · next hshort =>
        cases h
        refine ⟨?_, hafter⟩
        rw [Value.isWritable]
        exact isShort_takeDigits hshort _
    · cases h
      refine ⟨rfl, .of_suffix ?_ hafter⟩
      cases hpower : Double.takeExponent? (takeFraction after).2 with
      | none => exact List.suffix_rfl
      | some power => exact takeExponent?_suffix hpower

/-! ## Words -/

theorem dropPrefix?_eq_some {p l rest : List Char} (h : Text.dropPrefix? p l = some rest) :
    l = p ++ rest := by
  induction p generalizing l with
  | nil =>
    cases h
    rfl
  | cons a p ih =>
    cases l with
    | nil => cases h
    | cons b l =>
      rw [Text.dropPrefix?] at h
      split at h
      · next hab => rw [hab, ih h, List.cons_append]
      · cases h

theorem takeWord?_isRead {cs rest : List Char} {v : Value} (h : takeWord? cs = some (v, rest)) :
    IsRead cs v rest := by
  obtain ⟨w, hw, hd⟩ := List.exists_of_findSome?_eq_some h
  obtain ⟨after, hafter, he⟩ := Option.map_eq_some_iff.1 hd
  cases he
  have hword : w.2.isWritable = true ∧ w.1.toList ≠ [] := by
    simp only [words, List.mem_cons, List.not_mem_nil, or_false] at hw
    rcases hw with rfl | rfl | rfl | rfl | rfl | rfl <;> exact ⟨rfl, by decide⟩
  rw [dropPrefix?_eq_some hafter]
  exact ⟨hword.1, .append hword.2⟩

/-! ## Values -/

theorem areWritable_iff {vs : List Value} :
    Value.areWritable vs = true ↔ ∀ v ∈ vs, v.isWritable = true := by
  induction vs with
  | nil => simp [Value.areWritable]
  | cons v vs ih => simp [Value.areWritable, ih]

theorem areEntriesWritable_iff {es : List (Value × Value)} :
    Value.areEntriesWritable es = true ↔
      ∀ e ∈ es, e.1.isWritable = true ∧ e.2.isWritable = true := by
  induction es with
  | nil => simp [Value.areEntriesWritable]
  | cons e es ih => simp [Value.areEntriesWritable, ih, and_assoc]

theorem insertEntry_writable {key value : Value} {es : List (Value × Value)}
    (h : Value.areEntriesWritable es = true) (hk : key.isWritable = true)
    (hv : value.isWritable = true) : Value.areEntriesWritable (Value.insertEntry key value es) = true := by
  induction es with
  | nil => simp [Value.insertEntry, Value.areEntriesWritable, hk, hv]
  | cons e es ih =>
    simp only [Value.areEntriesWritable, Bool.and_eq_true] at h
    rw [Value.insertEntry]
    split
    · simp [Value.areEntriesWritable, h, hv]
    · simp [Value.areEntriesWritable, h, ih]

/-- What stands behind a mark that follows a space. -/
theorem Follows.of_mark {c d : Char} {cs rest : List Char} (h : skipSpace cs = d :: rest) :
    Follows rest (c :: cs) := by
  refine .of_cons (List.IsSuffix.trans ?_ (skipSpace_suffix cs))
  rw [h]
  exact List.suffix_cons d rest

/-- Have values that are read with this much fuel a front of the text, and integers that
    are not too long to be written out? -/
def ValuesAreRead (fuel : Nat) : Prop :=
  ∀ {depth cs v rest}, readValue fuel depth cs = .ok (v, rest) → IsRead cs v rest

/-- Have lists that are read? -/
def ItemsAreRead (fuel : Nat) : Prop :=
  ∀ {depth found cs v rest}, Value.areWritable found = true →
    readItems fuel depth found cs = .ok (v, rest) → IsRead cs v rest

/-- Have objects that are read? -/
def EntriesAreRead (fuel : Nat) : Prop :=
  ∀ {depth found cs v rest}, Value.areEntriesWritable found = true →
    readEntries fuel depth found cs = .ok (v, rest) → IsRead cs v rest

section Step

variable {fuel : Nat} (hvalues : ValuesAreRead fuel) (hitems : ItemsAreRead fuel)
  (hentries : EntriesAreRead fuel)

include hitems hentries in
theorem ValuesAreRead.succ : ValuesAreRead (fuel + 1) := by
  intro depth cs v rest h
  rw [readValue.eq_def] at h
  dsimp only at h
  split at h
  · obtain ⟨⟨s, after⟩, hs, h⟩ := exists_of_bind_ok h
    cases h
    exact ⟨rfl, (textAfterQuote_follows hs).trans_suffix (List.suffix_cons _ _)⟩
  · next after =>
    -- an object, which may be empty
    split at h
    · cases h
    · next hspace =>
      cases h
      exact ⟨rfl, .of_mark hspace⟩
    · obtain ⟨hwritable, hfollows⟩ := hentries rfl h
      exact ⟨hwritable, .of_cons (hfollows.suffix.trans (skipSpace_suffix after))⟩
  · next after =>
    -- a list, which may be empty
    split at h
    · cases h
    · next hspace =>
      cases h
      exact ⟨rfl, .of_mark hspace⟩
    · obtain ⟨hwritable, hfollows⟩ := hitems rfl h
      exact ⟨hwritable, .of_cons (hfollows.suffix.trans (skipSpace_suffix after))⟩
  · split at h
    · next hword =>
      cases h
      exact takeWord?_isRead hword
    · exact readNumber_isRead h

include hvalues hitems in
theorem ItemsAreRead.succ : ItemsAreRead (fuel + 1) := by
  intro depth found cs v rest hfound h
  rw [readItems] at h
  obtain ⟨⟨w, after⟩, hw, h⟩ := exists_of_bind_ok h
  obtain ⟨hwritable, hfollows⟩ := hvalues hw
  have hmore : Value.areWritable (found ++ [w]) = true := by
    rw [areWritable_iff] at hfound ⊢
    simpa [or_imp, forall_and, hwritable] using hfound
  have hspace := skipSpace_suffix after
  dsimp only at h
  split at h
  · next heq =>
    -- the list is closed
    rw [heq] at hspace
    cases h
    exact ⟨hmore, .of_suffix ((List.suffix_cons _ _).trans hspace) hfollows⟩
  · next heq =>
    -- a comma, and more items behind it
    rw [heq] at hspace
    obtain ⟨hv, hrest⟩ := hitems hmore h
    exact ⟨hv, .of_suffix (((hrest.suffix.trans (skipSpace_suffix _)).trans
      (List.suffix_cons _ _)).trans hspace) hfollows⟩
  · cases h

include hvalues hentries in
theorem EntriesAreRead.succ : EntriesAreRead (fuel + 1) := by
  intro depth found cs v rest hfound h
  rw [readEntries.eq_def] at h
  dsimp only at h
  split at h
  · obtain ⟨⟨key, afterKey⟩, hkey, h⟩ := exists_of_bind_ok h
    have hfollows := (textAfterQuote_follows hkey).trans_suffix (List.suffix_cons '"' _)
    have hspace := skipSpace_suffix afterKey
    dsimp only at h
    split at h
    · next heq =>
      rw [heq] at hspace
      obtain ⟨⟨w, after⟩, hw, h⟩ := exists_of_bind_ok h
      obtain ⟨hwritable, hvalue⟩ := hvalues hw
      have hafter : after <:+ afterKey :=
        ((hvalue.suffix.trans (skipSpace_suffix _)).trans (List.suffix_cons _ _)).trans hspace
      have hmore := insertEntry_writable hfound (show (Value.text key).isWritable = true from rfl)
        hwritable
      have hspace' := skipSpace_suffix after
      dsimp only at h
      split at h
      · next heq' =>
        rw [heq'] at hspace'
        cases h
        exact ⟨hmore, .of_suffix (((List.suffix_cons _ _).trans hspace').trans hafter) hfollows⟩
      · next heq' =>
        rw [heq'] at hspace'
        obtain ⟨hv, hrest⟩ := hentries hmore h
        exact ⟨hv, .of_suffix ((((hrest.suffix.trans (skipSpace_suffix _)).trans
          (List.suffix_cons _ _)).trans hspace').trans hafter) hfollows⟩
      · cases h
    · cases h
  · cases h

end Step

theorem reads_isRead (fuel : Nat) : ValuesAreRead fuel ∧ ItemsAreRead fuel ∧ EntriesAreRead fuel := by
  induction fuel with
  | zero => exact ⟨nofun, fun _ => nofun, fun _ => nofun⟩
  | succ fuel ih =>
    obtain ⟨hvalues, hitems, hentries⟩ := ih
    exact ⟨ValuesAreRead.succ hitems hentries, ItemsAreRead.succ hvalues hitems,
      EntriesAreRead.succ hvalues hentries⟩

theorem readValue_isRead {fuel depth : Nat} {cs rest : List Char} {v : Value}
    (h : readValue fuel depth cs = .ok (v, rest)) : IsRead cs v rest := (reads_isRead fuel).1 h

/-- The integers of a document that is read are not too long to be written out. -/
theorem read_isWritable {text : String} {v : Value} (h : read text = .ok v) : v.isWritable = true := by
  have hdocument : readDocument text.toList = .ok v := by
    rw [read] at h
    cases hr : readDocument text.toList with
    | error e =>
      rw [hr] at h
      cases h
    | ok w =>
      rw [hr] at h
      cases h
      rfl
  unfold readDocument at hdocument
  split at hdocument
  · cases hdocument
  · obtain ⟨⟨w, rest⟩, hw, hdocument⟩ := exists_of_bind_ok hdocument
    dsimp only at hdocument
    split at hdocument
    · cases hdocument
      exact (readValue_isRead hw).writable
    · cases hdocument

/-! ## How reading fails -/

/-- Does reading end with a result or with a fault at a place? -/
def Settles {α : Type} (r : Except Trouble α) : Prop :=
  ∀ trouble, r = .error trouble → ∃ f left, trouble = .fault f left

section

variable {α β : Type}

theorem settles_ok (x : α) : Settles (.ok x) := nofun

theorem settles_faultAt (f : Fault) (rest : List Char) : Settles (faultAt f rest : Except Trouble α) := by
  rintro _ ⟨⟩
  exact ⟨f, _, rfl⟩

theorem Settles.bind {r : Except Trouble α} {f : α → Except Trouble β} (hr : Settles r)
    (hf : ∀ x, r = .ok x → Settles (f x)) : Settles (r >>= f) := by
  cases r with
  | error trouble =>
    rintro _ ⟨⟩
    exact hr trouble rfl
  | ok x => exact hf x rfl

end

theorem settles_unicodeEscape (cs : List Char) : Settles (unicodeEscape cs) := by
  have hlow : ∀ cs, Settles (takeLow? cs) := by
    intro cs
    unfold takeLow?
    split
    · split
      · exact settles_ok _
      · split
        · exact settles_faultAt _ _
        · exact settles_ok _
    · exact settles_ok _
  unfold unicodeEscape
  split
  · exact settles_faultAt _ _
  · split
    · refine (hlow _).bind fun low _ => ?_
      cases low with
      | some low => exact settles_ok _
      | none => exact settles_ok _
    · exact settles_ok _

theorem settles_readText (start fuel : Nat) (cs : List Char) : Settles (readText start fuel cs) := by
  -- running out of fuel looks the same as a text that is not closed
  have hunterminated : Settles (.error (.fault .unterminatedText start) :
      Except Trouble (List Char × List Char)) := by
    rintro _ ⟨⟩
    exact ⟨_, _, rfl⟩
  induction fuel generalizing cs with
  | zero => exact hunterminated
  | succ fuel ih =>
    rw [readText.eq_def]
    dsimp only
    split
    · exact hunterminated
    · exact hunterminated
    · exact settles_ok _
    · exact hunterminated
    · next heq =>
      cases heq
      split
      · exact (settles_unicodeEscape _).bind fun _ _ => (ih _).bind fun _ _ => settles_ok _
      · split
        · exact (ih _).bind fun _ _ => settles_ok _
        · exact settles_faultAt _ _
    · next heq =>
      cases heq
      split
      · exact settles_faultAt _ _
      · exact (ih _).bind fun _ _ => settles_ok _

theorem settles_textAfterQuote (cs : List Char) : Settles (textAfterQuote cs) :=
  (settles_readText _ _ _).bind fun _ _ => settles_ok _

/-- Has a text no more digits in a row than an integer can have, and no more opening
    brackets than may nest? -/
structure IsTame (depth : Nat) (cs : List Char) : Prop where
  nesting : cs.countP (fun c => c = '[' || c = '\x7b') ≤ depth
  digits : ∀ run, run <:+: cs → (∀ c ∈ run, c.isDigit = true) → run.length ≤ Text.maxDigits

theorem IsTame.of_suffix {depth : Nat} {rest cs : List Char} (h : IsTame depth cs)
    (hrest : rest <:+ cs) : IsTame depth rest where
  nesting := Nat.le_trans (List.Sublist.countP_le hrest.sublist) h.nesting
  digits run hrun := h.digits run (hrun.trans hrest.isInfix)

/-- Behind an opening bracket one less may nest. -/
theorem IsTame.opened {depth : Nat} {c : Char} {cs : List Char} (h : IsTame depth (c :: cs))
    (hc : (c = '[' || c = '\x7b') = true) : ∃ inner, depth = inner + 1 ∧ IsTame inner cs := by
  have hcount := h.nesting
  rw [List.countP_cons, if_pos hc] at hcount
  cases depth with
  | zero => omega
  | succ inner =>
    exact ⟨inner, rfl, Nat.le_of_succ_le_succ hcount,
      (h.of_suffix (List.suffix_cons c cs)).digits⟩

theorem settles_readNumber {depth : Nat} {cs : List Char} (h : IsTame depth cs) :
    Settles (readNumber cs) := by
  unfold readNumber
  dsimp only
  split
  · exact settles_faultAt _ _
  · next whole rest hwhole =>
    obtain ⟨hsplit, _, hdigits⟩ := takeWhole?_spec hwhole
    have hrun : whole <:+: cs :=
      (show whole <+: (takeSign cs).2 from ⟨rest, hsplit.symm⟩).isInfix.trans (takeSign_suffix cs).isInfix
    split
    · rw [if_neg (Nat.not_lt.2 (h.digits whole hrun hdigits))]
      exact settles_ok _
    · exact settles_ok _

/-- Are tame texts read as values or end with a fault, with this much fuel for them? -/
def ValuesSettle (fuel : Nat) : Prop :=
  ∀ {depth cs}, 2 * cs.length + 1 ≤ fuel → IsTame depth cs → Settles (readValue fuel depth cs)

/-- Are they read as items? -/
def ItemsSettle (fuel : Nat) : Prop :=
  ∀ {depth found cs}, 2 * cs.length + 2 ≤ fuel → IsTame depth cs →
    Settles (readItems fuel depth found cs)

/-- Are they read as entries? -/
def EntriesSettle (fuel : Nat) : Prop :=
  ∀ {depth found cs}, 2 * cs.length + 2 ≤ fuel → IsTame depth cs →
    Settles (readEntries fuel depth found cs)

section Step

variable {fuel : Nat} (hvalues : ValuesSettle fuel) (hitems : ItemsSettle fuel)
  (hentries : EntriesSettle fuel)

include hitems hentries in
theorem ValuesSettle.succ : ValuesSettle (fuel + 1) := by
  intro depth cs hfuel h
  rw [readValue.eq_def]
  dsimp only
  split
  · exact (settles_textAfterQuote _).bind fun _ _ => settles_ok _
  · next rest =>
    obtain ⟨inner, rfl, hinner⟩ := h.opened rfl
    have hspace := skipSpace_suffix rest
    have hlength := hspace.length_le
    rw [List.length_cons] at hfuel
    -- the opening bracket pays for reading the entries, which is a step more
    split
    · contradiction
    · exact settles_ok _
    · next heq _ =>
      cases heq
      exact hentries (by omega) (hinner.of_suffix hspace)
  · next rest =>
    obtain ⟨inner, rfl, hinner⟩ := h.opened rfl
    have hspace := skipSpace_suffix rest
    have hlength := hspace.length_le
    rw [List.length_cons] at hfuel
    split
    · contradiction
    · exact settles_ok _
    · next heq _ =>
      cases heq
      exact hitems (by omega) (hinner.of_suffix hspace)
  · split
    · exact settles_ok _
    · exact settles_readNumber h

include hvalues hitems in
theorem ItemsSettle.succ : ItemsSettle (fuel + 1) := by
  intro depth found cs hfuel h
  rw [readItems]
  refine (hvalues (by omega) h).bind fun r hr => ?_
  obtain ⟨v, after⟩ := r
  have hafter := (readValue_isRead hr).follows
  have hspace := skipSpace_suffix after
  dsimp only
  split
  · exact settles_ok _
  · next rest heq =>
    rw [heq] at hspace
    have hnext : Follows (skipSpace rest) _ := .of_suffix
      ((skipSpace_suffix rest).trans ((List.suffix_cons _ _).trans hspace)) hafter
    have hshorter := hnext.shorter
    exact hitems (by omega) (h.of_suffix hnext.suffix)
  · exact settles_faultAt _ _

include hvalues hentries in
theorem EntriesSettle.succ : EntriesSettle (fuel + 1) := by
  intro depth found cs hfuel h
  rw [readEntries.eq_def]
  dsimp only
  split
  · refine (settles_textAfterQuote _).bind fun r hr => ?_
    obtain ⟨key, afterKey⟩ := r
    have hfollows := (textAfterQuote_follows hr).trans_suffix (List.suffix_cons '"' _)
    have hspace := skipSpace_suffix afterKey
    dsimp only
    split
    · next rest heq =>
      rw [heq] at hspace
      have hvalue : Follows (skipSpace rest) _ := .of_suffix
        ((skipSpace_suffix rest).trans ((List.suffix_cons _ _).trans hspace)) hfollows
      have hshorter := hvalue.shorter
      refine (hvalues (by omega) (h.of_suffix hvalue.suffix)).bind fun r hr => ?_
      obtain ⟨v, after⟩ := r
      have hafter : Follows after _ := .of_suffix (readValue_isRead hr).follows.suffix hvalue
      have hspace' := skipSpace_suffix after
      dsimp only
      split
      · exact settles_ok _
      · next rest' heq' =>
        rw [heq'] at hspace'
        have hnext : Follows (skipSpace rest') _ := .of_suffix
          ((skipSpace_suffix rest').trans ((List.suffix_cons _ _).trans hspace')) hafter
        have hshorter' := hnext.shorter
        exact hentries (by omega) (h.of_suffix hnext.suffix)
      · exact settles_faultAt _ _
    · exact settles_faultAt _ _
  · exact settles_faultAt _ _

end Step

/-- With fuel for every character, a tame text is read or ends with a fault. -/
theorem reads_settle (fuel : Nat) : ValuesSettle fuel ∧ ItemsSettle fuel ∧ EntriesSettle fuel := by
  induction fuel with
  | zero => exact ⟨fun h => by omega, fun h => by omega, fun h => by omega⟩
  | succ fuel ih =>
    obtain ⟨hvalues, hitems, hentries⟩ := ih
    exact ⟨ValuesSettle.succ hitems hentries, ItemsSettle.succ hvalues hitems,
      EntriesSettle.succ hvalues hentries⟩

theorem settles_readDocument {cs : List Char} (h : IsTame maxDepth cs) : Settles (readDocument cs) := by
  unfold readDocument
  split
  · exact settles_faultAt _ _
  · have hspace := skipSpace_suffix cs
    have hlength := hspace.length_le
    refine ((reads_settle _).1 (by omega) (h.of_suffix hspace)).bind fun _ _ => ?_
    dsimp only
    split
    · exact settles_ok _
    · exact settles_faultAt _ _

/-- A tame document is read, or it has a fault at a place. -/
theorem read_tame {text : String} (h : IsTame maxDepth text.toList) :
    read text ≠ .error .tooManyDigits ∧ read text ≠ .error .tooDeep := by
  have hsettles := settles_readDocument h
  unfold read
  cases hr : readDocument text.toList with
  | ok v => exact ⟨nofun, nofun⟩
  | error trouble =>
    obtain ⟨f, left, rfl⟩ := hsettles trouble hr
    exact ⟨nofun, nofun⟩

end CxxWriter.Json
