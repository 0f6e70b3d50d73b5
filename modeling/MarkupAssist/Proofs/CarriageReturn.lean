import Mathlib.Data.List.Basic
import MarkupAssist.Proofs.AttributeScan
import MarkupAssist.Proofs.TagGrammar

/-!
# Text with other line endings

`crlf` writes a carriage return in front of every line feed of a text. Nothing in
the scanning of markup tells the two texts apart: a scan stops at both characters
or passes over both, so that no piece it cuts out starts or ends between them.
Each scan of the library therefore gives, on `crlf cs`, the pieces it gives on
`cs`, rewritten in the same way.

* Runs and cuts: `takeWhile_crlf`, `dropWhile_crlf`, `splitFirst?_crlf`,
  `splitLast?_crlf`.
* Attributes of a body: `assigned?_crlf`, `attributeMatches_crlf`.
* Tags of a text: `body?_crlf`, `tag?_crlf`, `tagMatches_crlf`.

A number of characters becomes the length of the rewritten text before it; the
position at that place stays the same (`advanceOver_crlf`).
-/

namespace MarkupAssist

namespace Text

/-- A text with a carriage return in front of every line feed. -/
def crlf (cs : List Char) : List Char :=
  cs.flatMap fun c => if c = '\n' then ['\r', '\n'] else [c]

@[simp] theorem crlf_nil : crlf [] = [] := rfl

theorem crlf_newline (cs : List Char) : crlf ('\n' :: cs) = '\r' :: '\n' :: crlf cs := rfl

theorem crlf_cons {c : Char} (hc : c ≠ '\n') (cs : List Char) : crlf (c :: cs) = c :: crlf cs := by
  rw [crlf, List.flatMap_cons, if_neg hc]
  rfl

theorem crlf_append (cs ds : List Char) : crlf (cs ++ ds) = crlf cs ++ crlf ds :=
  List.flatMap_append

theorem crlf_eq_self {cs : List Char} (hcs : '\n' ∉ cs) : crlf cs = cs := by
  induction cs with
  | nil => rfl
  | cons c cs ih =>
    rw [List.mem_cons, not_or] at hcs
    rw [crlf_cons (Ne.symm hcs.1), ih hcs.2]

/-- The characters of a text, the carriage return apart, are those it had. -/
theorem mem_crlf {c : Char} (hc : c ≠ '\r') {cs : List Char} : c ∈ crlf cs ↔ c ∈ cs := by
  induction cs with
  | nil => rfl
  | cons d cs ih =>
    by_cases hd : d = '\n'
    · subst hd
      rw [crlf_newline, List.mem_cons, List.mem_cons, List.mem_cons, ih, or_iff_right hc]
    · rw [crlf_cons hd, List.mem_cons, List.mem_cons, ih]

/-- Every line feed makes the text longer by one character. -/
theorem length_crlf (cs : List Char) : (crlf cs).length = cs.length + cs.count '\n' := by
  induction cs with
  | nil => rfl
  | cons c cs ih =>
    by_cases hc : c = '\n'
    · subst hc
      rw [crlf_newline, List.length_cons, List.length_cons, ih, List.count_cons_self,
        List.length_cons]
      omega
    · rw [crlf_cons hc, List.length_cons, ih, List.count_cons_of_ne hc, List.length_cons]
      omega

theorem count_crlf {c : Char} (hc : c ≠ '\r') (cs : List Char) :
    (crlf cs).count c = cs.count c := by
  induction cs with
  | nil => rfl
  | cons d cs ih =>
    by_cases hd : d = '\n'
    · subst hd
      rw [crlf_newline, List.count_cons_of_ne (Ne.symm hc), List.count_cons, List.count_cons, ih]
    · rw [crlf_cons hd, List.count_cons, List.count_cons, ih]

theorem advanceOver_crlf (p : Position) (cs : List Char) :
    p.advanceOver (crlf cs) = p.advanceOver cs := by
  induction cs generalizing p with
  | nil => rfl
  | cons c cs ih =>
    by_cases hc : c = '\n'
    · -- the carriage return moves the position along the line that the line feed leaves
      subst hc
      exact ih _
    · rw [crlf_cons hc]
      exact ih _

theorem isEmpty_crlf (cs : List Char) : (crlf cs).isEmpty = cs.isEmpty := by
  cases cs with
  | nil => rfl
  | cons c cs =>
    by_cases hc : c = '\n'
    · subst hc
      rfl
    · rw [crlf_cons hc]
      rfl

/-! ### Runs and cuts -/

section Runs

variable {p : Char → Bool}

theorem takeWhile_crlf (hp : p '\r' = p '\n') (cs : List Char) :
    (crlf cs).takeWhile p = crlf (cs.takeWhile p) := by
  induction cs with
  | nil => rfl
  | cons c cs ih =>
    by_cases hc : c = '\n'
    · -- the run goes on over both characters of the line ending or stops in front of both
      subst hc
      rw [crlf_newline, List.takeWhile_cons, List.takeWhile_cons, List.takeWhile_cons, hp, ih]
      split <;> rfl
    · rw [crlf_cons hc, List.takeWhile_cons, List.takeWhile_cons, ih]
      split
      · rw [crlf_cons hc]
      · rfl

theorem dropWhile_crlf (hp : p '\r' = p '\n') (cs : List Char) :
    (crlf cs).dropWhile p = crlf (cs.dropWhile p) := by
  have h : (crlf cs).takeWhile p ++ (crlf cs).dropWhile p =
      crlf (cs.takeWhile p) ++ crlf (cs.dropWhile p) := by
    rw [List.takeWhile_append_dropWhile, ← crlf_append, List.takeWhile_append_dropWhile]
  rw [takeWhile_crlf hp] at h
  exact List.append_cancel_left h

/-- A run that has no line feed is the same run. -/
theorem takeWhile_crlf_eq (hreturn : p '\r' = false) (hfeed : p '\n' = false) (cs : List Char) :
    (crlf cs).takeWhile p = cs.takeWhile p := by
  rw [takeWhile_crlf (hreturn.trans hfeed.symm), crlf_eq_self]
  intro hmem
  rw [List.mem_takeWhile_imp hmem] at hfeed
  cases hfeed

theorem all_crlf (hp : p '\r' = p '\n') (cs : List Char) : (crlf cs).all p = cs.all p := by
  induction cs with
  | nil => rfl
  | cons c cs ih =>
    by_cases hc : c = '\n'
    · subst hc
      rw [crlf_newline, List.all_cons, List.all_cons, List.all_cons, hp, ih, ← Bool.and_assoc,
        Bool.and_self]
    · rw [crlf_cons hc, List.all_cons, List.all_cons, ih]

theorem any_crlf (hp : p '\r' = p '\n') (cs : List Char) : (crlf cs).any p = cs.any p := by
  have h := all_crlf (p := fun c => !p c) (congrArg Bool.not hp) cs
  rwa [← List.not_any_eq_all_not, ← List.not_any_eq_all_not, Bool.not_inj_iff] at h

theorem splitFirst?_crlf (hp : p '\r' = p '\n') (cs : List Char) :
    splitFirst? p (crlf cs) = (splitFirst? p cs).map (Prod.map crlf crlf) := by
  induction cs with
  | nil => rfl
  | cons c cs ih =>
    by_cases hc : c = '\n'
    · subst hc
      rw [crlf_newline, splitFirst?, splitFirst?, splitFirst?, hp, ih]
      split
      · rfl
      · rw [Option.map_map, Option.map_map, Option.map_map]
        rfl
    · rw [crlf_cons hc, splitFirst?, splitFirst?, ih]
      split
      · simp [crlf_cons hc]
      · rw [Option.map_map, Option.map_map]
        congr 1
        funext found
        simp [crlf_cons hc]

theorem splitLast?_crlf (hreturn : p '\r' = false) (hfeed : p '\n' = false) (cs : List Char) :
    splitLast? p (crlf cs) = (splitLast? p cs).map (Prod.map crlf crlf) := by
  induction cs with
  | nil => rfl
  | cons c cs ih =>
    by_cases hc : c = '\n'
    · subst hc
      rw [crlf_newline]
      cases hcut : splitLast? p cs with
      | none => simp [splitLast?, ih, hcut, hreturn, hfeed]
      | some found => simp [splitLast?, ih, hcut, crlf_newline]
    · rw [crlf_cons hc]
      cases hcut : splitLast? p cs with
      | none =>
        by_cases hpc : p c = true
        · simp [splitLast?, ih, hcut, hpc, crlf_cons hc]
        · simp [splitLast?, ih, hcut, hpc]
      | some found => simp [splitLast?, ih, hcut, crlf_cons hc]

end Runs

end Text

namespace Markup

open Text

/-! ### Attributes -/

theorem delimited?_crlf {close : Char} (hreturn : close ≠ '\r') (hfeed : close ≠ '\n')
    (cs : List Char) :
    delimited? close (crlf cs) = (delimited? close cs).map (Prod.map crlf crlf) := by
  by_cases hmem : close ∈ cs
  · obtain ⟨value, rest, rfl, hvalue⟩ := List.eq_append_cons_of_mem hmem
    rw [crlf_append, crlf_cons hfeed, delimited?_append hvalue,
      delimited?_append (mem_crlf hreturn |>.not.mpr hvalue)]
    rfl
  · rw [delimited?_eq_none hmem, delimited?_eq_none (mem_crlf hreturn |>.not.mpr hmem)]
    rfl

theorem bareValue?_crlf (cs : List Char) :
    bareValue? (crlf cs) = (bareValue? cs).map (Prod.map crlf crlf) := by
  have hends : isBareValueChar '\r' = isBareValueChar '\n' := by decide
  simp only [bareValue?, takeWhile_crlf hends, dropWhile_crlf hends, isEmpty_crlf]
  split <;> rfl

theorem value?_crlf (cs : List Char) :
    value? (crlf cs) = (value? cs).map (Prod.map crlf crlf) := by
  cases cs with
  | nil => rfl
  | cons c cs =>
    by_cases hc : c = '\n'
    · subst hc
      exact bareValue?_crlf ('\n' :: cs)
    · have hbare := bareValue?_crlf (c :: cs)
      rw [crlf_cons hc] at hbare ⊢
      by_cases hdouble : c = '"'
      · subst hdouble
        exact delimited?_crlf (by decide) (by decide) cs
      by_cases hsingle : c = '\''
      · subst hsingle
        exact delimited?_crlf (by decide) (by decide) cs
      by_cases hbrace : c = '\x7b'
      · -- a brace that is not closed leaves the choice to the bare value
        subst hbrace
        change (delimited? '\x7d' (crlf cs)).or (bareValue? ('\x7b' :: crlf cs)) =
          ((delimited? '\x7d' cs).or (bareValue? ('\x7b' :: cs))).map (Prod.map crlf crlf)
        rw [delimited?_crlf (by decide) (by decide), hbare, Option.map_or]
      · rw [value?_other hdouble hsingle hbrace, value?_other hdouble hsingle hbrace, hbare]

theorem assigned?_crlf (cs : List Char) :
    assigned? (crlf cs) = (assigned? cs).map (Prod.map crlf crlf) := by
  have hends : isBlank '\r' = isBlank '\n' := by decide
  have hdrop := dropWhile_crlf hends cs
  cases htail : cs.dropWhile isBlank with
  | nil =>
    rw [htail] at hdrop
    rw [assigned?, hdrop, assigned?, htail]
    rfl
  | cons c tail =>
    rw [htail] at hdrop
    by_cases hfeed : c = '\n'
    · subst hfeed
      rw [assigned?_of_ne (by decide) htail, assigned?_of_ne (by decide) hdrop]
      rfl
    rw [crlf_cons hfeed] at hdrop
    by_cases hc : c = '='
    · subst hc
      rw [assigned?_of_equals htail, assigned?_of_equals hdrop, dropWhile_crlf hends, value?_crlf]
    · rw [assigned?_of_ne hc htail, assigned?_of_ne hc hdrop]
      rfl

/-- An attribute in a body with other line endings; `body` is the body it stands in. -/
def AttributeMatch.crlf (body : List Char) (m : AttributeMatch) : AttributeMatch :=
  ⟨(Text.crlf (body.take m.offset)).length, m.name, Text.crlf m.text, m.value.map Text.crlf⟩

theorem feed_notMem {name : List Char} (hname : ∀ c ∈ name, isAttributeChar c = true) :
    '\n' ∉ name :=
  fun hmem => absurd (hname _ hmem) (by decide)

/-- **The attributes of a body do not depend on its line endings.** The part `cs` of the body is
scanned behind the part `pre`. -/
theorem attributeMatches_crlf (pre cs : List Char) :
    attributeMatches (crlf pre).length (crlf cs) =
      (attributeMatches pre.length cs).map (AttributeMatch.crlf (pre ++ cs)) := by
  obtain ⟨offset, hoffset⟩ : ∃ n, n = pre.length := ⟨_, rfl⟩
  rw [← hoffset]
  have hends : isAttributeChar '\r' = isAttributeChar '\n' := by decide
  -- along the scan; what has been read moves from `cs` to `pre`
  induction offset, cs using attributes_induction generalizing pre with
  | nil offset => rw [attributeMatches.eq_def, crlf_nil, attributeMatches.eq_def]; rfl
  | assigned offset name front value rest hne hname hfront hvalue ih =>
    subst hoffset
    have hself := crlf_eq_self (feed_notMem hname)
    have hfront' := takeWhile_crlf hends (front ++ rest)
    have hvalue' := assigned?_crlf (front ++ rest)
    rw [hfront, crlf_append] at hfront'
    rw [hvalue, crlf_append] at hvalue'
    have hlength : (crlf pre).length + (name ++ crlf front).length =
        (crlf (pre ++ (name ++ front))).length := by
      simp only [crlf_append, hself, List.length_append]
    rw [attributeMatches_assigned hne hname hfront hvalue, crlf_append, crlf_append, hself,
      attributeMatches_assigned hne hname hfront' hvalue', hlength,
      ih (pre ++ (name ++ front)) (by simp), List.map_cons]
    simp [AttributeMatch.crlf, crlf_append, hself]
  | bare offset name rest hne hname hrest hvalue ih =>
    subst hoffset
    have hself := crlf_eq_self (feed_notMem hname)
    have hrest' := takeWhile_crlf hends rest
    have hvalue' := assigned?_crlf rest
    rw [hrest] at hrest'
    rw [hvalue] at hvalue'
    have hlength : (crlf pre).length + name.length = (crlf (pre ++ name)).length := by
      simp only [crlf_append, hself, List.length_append]
    rw [attributeMatches_bare hne hname hrest hvalue, crlf_append, hself,
      attributeMatches_bare hne hname hrest' hvalue', hlength, ih (pre ++ name) (by simp),
      List.map_cons]
    simp [AttributeMatch.crlf, hself]
  | pass offset c cs hc ih =>
    subst hoffset
    have ih' := ih (pre ++ [c]) (by simp)
    rw [attributeMatches_pass hc, List.append_cons, ← ih', crlf_append, List.length_append]
    by_cases hfeed : c = '\n'
    · -- both characters of the line ending are passed over
      subst hfeed
      rw [crlf_newline, attributeMatches_pass (by decide), attributeMatches_pass (by decide)]
      rfl
    · rw [crlf_cons hfeed, crlf_cons hfeed, attributeMatches_pass hc]
      rfl

/-! ### Tags -/

theorem ne_of_closer? {c close : Char} (h : closer? c = some close) :
    close ≠ '\r' ∧ close ≠ '\n' := by
  cases closer?_eq_some_iff.mp h <;> decide

/-- The body of a tag that starts in an enclosed part, or outside of one, does not depend on line
endings: neither character ends the tag or the enclosed part. -/
theorem body?_crlf {opened : Option Char}
    (hopened : ∀ close ∈ opened, close ≠ '\r' ∧ close ≠ '\n') (cs : List Char) :
    body? opened (crlf cs) = (body? opened cs).map (Prod.map crlf crlf) := by
  induction cs generalizing opened with
  | nil => cases opened <;> rfl
  | cons c cs ih =>
    have hcloser : ∀ close ∈ closer? c, close ≠ '\r' ∧ close ≠ '\n' :=
      fun close h => ne_of_closer? h
    by_cases hc : c = '\n'
    · subst hc
      cases opened with
      | none =>
        -- a line feed opens nothing, and nor does a carriage return
        have hnext : body? none (crlf cs) = (body? none cs).map (Prod.map crlf crlf) := ih hcloser
        change ((body? none (crlf cs)).map _).map _ = ((body? none cs).map _).map _
        rw [hnext, Option.map_map, Option.map_map, Option.map_map]
        rfl
      | some close =>
        obtain ⟨hreturn, hfeed⟩ := hopened close rfl
        have hnext := ih hopened
        simp only [crlf_newline, body?, beq_eq_false_iff_ne.mpr hreturn.symm,
          beq_eq_false_iff_ne.mpr hfeed.symm, Bool.false_eq_true, if_false]
        rw [hnext, Option.map_map, Option.map_map, Option.map_map]
        rfl
    · rw [crlf_cons hc]
      have hcons : (fun found : List Char × List Char => (c :: found.1, found.2)) ∘
          Prod.map crlf crlf = Prod.map crlf crlf ∘
            fun found : List Char × List Char => (c :: found.1, found.2) := by
        funext found
        simp [crlf_cons hc]
      cases opened with
      | none =>
        rw [body?, body?]
        split
        · simp [crlf_cons hc]
        · rw [ih hcloser, Option.map_map, Option.map_map]
          exact congrArg (Option.map · _) hcons
      | some close =>
        have hnext : ∀ d ∈ (if c == close then none else some close : Option Char),
            d ≠ '\r' ∧ d ≠ '\n' := by
          intro d hd
          split at hd
          · cases hd
          · exact hopened d hd
        rw [body?, body?, ih hnext, Option.map_map, Option.map_map]
        exact congrArg (Option.map · _) hcons

theorem tag?_crlf (cs : List Char) :
    tag? (crlf cs) = (tag? cs).map fun (name, body, rest) => (name, crlf body, crlf rest) := by
  have hends : isNameChar '\r' = isNameChar '\n' := by decide
  have hbody : body? none (crlf (cs.dropWhile isNameChar)) =
      (body? none (cs.dropWhile isNameChar)).map (Prod.map crlf crlf) := body?_crlf (by simp) _
  simp only [tag?, takeWhile_crlf_eq (p := isNameChar) (by decide) (by decide),
    dropWhile_crlf hends, hbody]
  split
  · rw [Option.map_map, Option.map_map]
    rfl
  · rfl

/-- A tag in a text with other line endings; `text` is the text it stands in. -/
def TagMatch.crlf (text : List Char) (m : TagMatch) : TagMatch :=
  ⟨(Text.crlf (text.take m.offset)).length, m.name, Text.crlf m.body⟩

/-- **The tags of a text do not depend on its line endings.** The part `cs` of the text is scanned
behind the part `pre`. -/
theorem tagMatches_crlf (pre cs : List Char) :
    tagMatches (crlf pre).length (crlf cs) =
      (tagMatches pre.length cs).map (TagMatch.crlf (pre ++ cs)) := by
  obtain ⟨offset, hoffset⟩ : ∃ n, n = pre.length := ⟨_, rfl⟩
  rw [← hoffset]
  induction offset, cs using scan_induction generalizing pre with
  | nil offset => rw [tagMatches.eq_def, crlf_nil, tagMatches.eq_def]; rfl
  | tag offset cs name body rest htag ih =>
    subst hoffset
    obtain ⟨ts, hshape, -, -⟩ := tagShape_of_tag? htag
    -- a name has no line feed, so the two tags differ in their bodies alone
    have hself := crlf_eq_self (hshape.name_ok.notMem (c := '\n') (by decide))
    have htag' := tag?_crlf cs
    rw [htag] at htag'
    have hlength : (crlf pre).length + 1 + name.length + (crlf body).length =
        (crlf (pre ++ '<' :: (name ++ body))).length := by
      rw [crlf_append, crlf_cons (by decide), crlf_append, hself]
      simp only [List.length_append, List.length_cons]
      omega
    have ih' := ih (pre ++ '<' :: (name ++ body)) (by simp; omega)
    rw [tagMatches_of_tag? htag, crlf_cons (by decide), tagMatches_of_tag? htag', hlength, ih',
      List.map_cons, ← tag?_append htag]
    simp [TagMatch.crlf]
  | skip offset c cs hskip ih =>
    subst hoffset
    have ih' := ih (pre ++ [c]) (by simp)
    rw [tagMatches_skip hskip, List.append_cons, ← ih', crlf_append, List.length_append]
    by_cases hfeed : c = '\n'
    · subst hfeed
      rw [crlf_newline, tagMatches_of_ne (by decide), tagMatches_of_ne (by decide)]
      rfl
    · rw [crlf_cons hfeed, crlf_cons hfeed, tagMatches_skip]
      · rfl
      · intro hc
        rw [tag?_crlf, hskip hc]
        rfl

end Markup

end MarkupAssist
