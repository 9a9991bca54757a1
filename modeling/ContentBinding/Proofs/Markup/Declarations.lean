import ContentBinding.Proofs.Markup.Lexing

/-! Doctype declarations. Wherever a scanner of a declaration stands, it ends at the latest behind the
next `>`, and what it finds does not depend on what follows. -/

namespace ContentBinding.Markup.Tokenizer

variable {α : Type} {cs : List Char}

def EndsInTime (f : List Char → α × List Char) : Prop :=
  ∀ cs rest, f (cs ++ '>' :: rest) = ((f (cs ++ ['>'])).1, (f (cs ++ ['>'])).2 ++ rest)

theorem dropWhile_gt (p : Char → Bool) (hp : p '>' = false) (cs rest : List Char) :
    (cs ++ '>' :: rest).dropWhile p = cs.dropWhile p ++ '>' :: rest := by
  induction cs with
  | nil => simp [hp]
  | cons c cs ih =>
    rw [List.cons_append, List.dropWhile_cons, List.dropWhile_cons]
    split
    · exact ih
    · rfl

theorem takeWhile_gt (p : Char → Bool) (hp : p '>' = false) (cs rest : List Char) :
    (cs ++ '>' :: rest).takeWhile p = cs.takeWhile p := by
  induction cs with
  | nil => simp [hp]
  | cons c cs ih =>
    rw [List.cons_append, List.takeWhile_cons, List.takeWhile_cons, ih]

theorem skipSpaces_gt (cs rest : List Char) :
    skipSpaces (cs ++ '>' :: rest) = skipSpaces cs ++ '>' :: rest :=
  dropWhile_gt isSpace rfl cs rest

theorem dropWord_gt {word : List Char} (hword : '>' ∉ word) (cs rest : List Char) :
    dropWord word (cs ++ '>' :: rest) = (dropWord word cs).map (· ++ '>' :: rest) := by
  induction word generalizing cs with
  | nil => rfl
  | cons w word ih =>
    rw [List.mem_cons, not_or] at hword
    cases cs with
    | nil => exact if_neg hword.1
    | cons c cs =>
      rw [List.cons_append, dropWord, dropWord, ih hword.2]
      split <;> rfl

theorem endsInTime_bogus (d : Doctype) : EndsInTime (bogusDoctype d) := by
  intro cs rest
  have hdrop := dropWhile_gt (fun c => c != '>') rfl cs
  simp only [bogusDoctype, hdrop]
  cases cs.dropWhile fun c => c != '>' <;> simp

theorem endsInTime_afterSystemId (d : Doctype) : EndsInTime (afterSystemId d) := by
  intro cs rest
  unfold afterSystemId
  rw [skipSpaces_gt, skipSpaces_gt]
  cases skipSpaces cs with
  | nil => rfl
  | cons c cs =>
    by_cases hc : c = '>'
    · subst hc
      simp
    · have hbogus := endsInTime_bogus d (c :: cs) rest
      simpa [hc] using hbogus

theorem scanIdentifier_gt {quote : Char} (hquote : quote ≠ '>') (cs : List Char) : ∃ id,
    (∃ cs', ∀ rest, scanIdentifier quote (cs ++ '>' :: rest) = (id, true, cs' ++ '>' :: rest)) ∨
      ∃ cs', ∀ rest, scanIdentifier quote (cs ++ '>' :: rest) = (id, false, cs' ++ rest) := by
  have hdrop := dropWhile_gt (fun c => c != quote && c != '>') (Bool.and_false _) cs
  have htake := takeWhile_gt (fun c => c != quote && c != '>') (Bool.and_false _) cs
  simp only [scanIdentifier, hdrop, htake]
  refine ⟨String.ofList ((cs.takeWhile fun c => c != quote && c != '>').map showNul), ?_⟩
  cases cs.dropWhile fun c => c != quote && c != '>' with
  | nil => exact .inr ⟨[], fun rest => by simp [hquote.symm]⟩
  | cons c cs' =>
    by_cases hc : c = quote
    · exact .inl ⟨cs', fun rest => by simp [hc]⟩
    · exact .inr ⟨cs' ++ ['>'], fun rest => by simp [hc]⟩

theorem endsInTime_scanSystemId (d : Doctype) {quote : Char} (hquote : quote ≠ '>') :
    EndsInTime (scanSystemId d quote) := by
  intro cs rest
  obtain ⟨id, ⟨cs', h⟩ | ⟨cs', h⟩⟩ := scanIdentifier_gt hquote cs
  · simpa [scanSystemId, h] using endsInTime_afterSystemId _ cs' rest
  · simp [scanSystemId, h]

theorem ne_gt_of_isQuote {c : Char} (h : isQuote c = true) : c ≠ '>' := by
  rintro rfl
  exact absurd h (by decide)

theorem endsInTime_afterPublicId (d : Doctype) : EndsInTime (afterPublicId d) := by
  intro cs rest
  unfold afterPublicId
  rw [skipSpaces_gt, skipSpaces_gt]
  cases skipSpaces cs with
  | nil => rfl
  | cons c cs =>
    dsimp only [List.cons_append]
    split_ifs with hc hquote
    · simp
    · exact endsInTime_scanSystemId d (ne_gt_of_isQuote hquote) cs rest
    · exact endsInTime_bogus _ (c :: cs) rest

theorem endsInTime_scanPublicId (d : Doctype) {quote : Char} (hquote : quote ≠ '>') :
    EndsInTime (scanPublicId d quote) := by
  intro cs rest
  obtain ⟨id, ⟨cs', h⟩ | ⟨cs', h⟩⟩ := scanIdentifier_gt hquote cs
  · simpa [scanPublicId, h] using endsInTime_afterPublicId _ cs' rest
  · simp [scanPublicId, h]

theorem endsInTime_beforeId (d : Doctype)
    {scan : Doctype → Char → List Char → Doctype × List Char}
    (hscan : ∀ quote, quote ≠ '>' → EndsInTime (scan d quote)) : EndsInTime (beforeId d scan) := by
  intro cs rest
  unfold beforeId
  rw [skipSpaces_gt, skipSpaces_gt]
  cases skipSpaces cs with
  | nil => rfl
  | cons c cs =>
    dsimp only [List.cons_append]
    split_ifs with hquote hc
    · exact hscan c (ne_gt_of_isQuote hquote) cs rest
    · simp
    · exact endsInTime_bogus _ (c :: cs) rest

theorem afterDoctypeName_of_ne (d : Doctype) {c : Char} {rest : List Char} (hc : c ≠ '>')
    (h : skipSpaces cs = c :: rest) : afterDoctypeName d cs =
      match dropWord "public".toList (c :: rest), dropWord "system".toList (c :: rest) with
      | some rest, _ => beforeId d scanPublicId rest
      | none, some rest => beforeId d scanSystemId rest
      | none, none => bogusDoctype { d with correct := false } (c :: rest) := by
  unfold afterDoctypeName
  rw [h]
  split
  · next heq => exact absurd heq (List.cons_ne_nil _ _)
  · next heq => exact absurd (List.cons.inj heq).1 hc
  · rfl

theorem endsInTime_afterDoctypeName (d : Doctype) : EndsInTime (afterDoctypeName d) := by
  intro cs rest
  have hskip := skipSpaces_gt cs
  cases hcs : skipSpaces cs with
  | nil => simp [afterDoctypeName, hskip, hcs]
  | cons c cs' =>
    by_cases hc : c = '>'
    · subst hc
      simp [afterDoctypeName, hskip, hcs]
    · have hword : ∀ rest, skipSpaces (cs ++ '>' :: rest) = c :: (cs' ++ '>' :: rest) :=
        fun rest => by rw [hskip, hcs, List.cons_append]
      have hpublic := dropWord_gt (show '>' ∉ "public".toList by decide) (c :: cs')
      have hsystem := dropWord_gt (show '>' ∉ "system".toList by decide) (c :: cs')
      simp only [List.cons_append] at hpublic hsystem
      rw [afterDoctypeName_of_ne d hc (hword rest), afterDoctypeName_of_ne d hc (hword []),
        hpublic, hpublic, hsystem, hsystem]
      cases dropWord "public".toList (c :: cs') with
      | some more =>
        exact endsInTime_beforeId d (fun quote => endsInTime_scanPublicId d) more rest
      | none =>
        cases dropWord "system".toList (c :: cs') with
        | some more =>
          exact endsInTime_beforeId d (fun quote => endsInTime_scanSystemId d) more rest
        | none => exact endsInTime_bogus _ (c :: cs') rest

theorem endsInTime_scanDoctype : EndsInTime scanDoctype := by
  intro cs rest
  have hskip := skipSpaces_gt cs
  cases hcs : skipSpaces cs with
  | nil => simp [scanDoctype, hskip, hcs]
  | cons c cs' =>
    by_cases hc : c = '>'
    · subst hc
      simp [scanDoctype, hskip, hcs]
    · have hdrop := dropWhile_gt (fun c => !isSpace c && c != '>') (Bool.and_false _) (c :: cs')
      have htake := takeWhile_gt (fun c => !isSpace c && c != '>') (Bool.and_false _) (c :: cs')
      have hname : ∀ rest, scanDoctype (cs ++ '>' :: rest) = afterDoctypeName
          { name := String.ofList (lower (((c :: cs').takeWhile fun c =>
            !isSpace c && c != '>').map showNul)) }
          (((c :: cs').dropWhile fun c => !isSpace c && c != '>') ++ '>' :: rest) := by
        intro rest
        rw [← htake rest, ← hdrop rest]
        simp only [scanDoctype, hskip, hcs, List.cons_append]
        split
        · next heq => exact absurd heq (List.cons_ne_nil _ _)
        · next heq => exact absurd (List.cons.inj heq).1 hc
        · rfl
      rw [hname, hname]
      exact endsInTime_afterDoctypeName _ _ rest

/-- What is read from a declaration. -/
def readDoctype (s : String) : Doctype :=
  (scanDoctype (' ' :: (s.toList ++ ['>']))).1

/-- A declaration that is read as it is written. -/
def isDeclaration (s : String) : Bool :=
  isClean s && scanDoctype (' ' :: (s.toList ++ ['>'])) = (readDoctype s, []) &&
    (readDoctype s).declared = s

theorem next_doctype {s : String} (h : isDeclaration s = true) (cdata : Bool) (rest : List Char) :
    next .data cdata ('<' :: '!' :: ("DOCTYPE".toList ++ ' ' :: (s.toList ++ '>' :: rest))) =
      ([.doctype (readDoctype s)], .data, rest) := by
  simp only [isDeclaration, Bool.and_eq_true, decide_eq_true_eq] at h
  have hscan : scanDoctype (' ' :: (s.toList ++ '>' :: rest)) = (readDoctype s, rest) := by
    have hcut := endsInTime_scanDoctype (' ' :: s.toList) rest
    rwa [List.cons_append, List.cons_append, h.1.2, List.nil_append] at hcut
  have hword : dropWord "doctype".toList ("DOCTYPE".toList ++ ' ' :: (s.toList ++ '>' :: rest)) =
      some (' ' :: (s.toList ++ '>' :: rest)) := rfl
  have hscan' : scanDeclaration cdata ("DOCTYPE".toList ++ ' ' :: (s.toList ++ '>' :: rest)) =
      ([.doctype (readDoctype s)], rest) := by
    unfold scanDeclaration
    split
    · next heq => exact absurd (List.cons.inj heq).1 (by decide)
    · rw [hword]
      dsimp only
      rw [hscan]
  simp only [next, scanMarkup, hscan']

end ContentBinding.Markup.Tokenizer
