import Busbind.Proofs.HeaderGrammar

/-! What the readers of the header take from a text is a header. An unclosed quotation is the one
exception on the way: it runs to the end of a text that is scanned whole, where no header can end. -/
namespace Busbind.HeaderGrammar
open Header Outcome

variable {e : Ending} {ts rest : List Token}

def RanOut (e : Ending) (rest : List Token) : Prop := (∃ p, e = .complete p) ∧ significant rest = []

theorem quotedSound {q : Punctuation} {s : String} (h : quoted e q ts = .ok (s, rest)) :
    RanOut e rest ∨ ∃ body closing, significant ts = body ++ closing :: significant rest ∧
      (∀ t ∈ body, t.kind ≠ .punctuation q) ∧ closing.kind = .punctuation q := by
  induction ts generalizing s with
  | nil =>
    left
    cases e with
    | complete p => cases h; exact ⟨⟨p, rfl⟩, rfl⟩
    | unclosed span => contradiction
  | cons t ts ih =>
    simp only [quoted] at h
    split at h
    · rename_i closes
      cases h
      exact .inr ⟨[], t, significantOfKind (by simp [closes]) _, by simp, closes⟩
    · rename_i inside
      cases tail : quoted e q ts with
      | error r => rw [tail] at h; contradiction
      | ok r =>
        rw [tail] at h
        cases h
        rcases ih tail with all | ⟨body, closing, split, others, closes⟩
        · exact .inl all
        · right
          by_cases here : t.isSignificant = true
          · refine ⟨t :: body, closing, ?_, List.forall_mem_cons.2 ⟨inside, others⟩, closes⟩
            simp only [significant, List.filter_cons, here, if_true] at split ⊢
            rw [split]
            rfl
          · refine ⟨body, closing, ?_, others, closes⟩
            simpa [significant, here] using split

theorem quotedTakes {q : Punctuation} {s : String} {opening : Token} {us : List Token}
    (found : significant ts = opening :: significant us) (mark : quoteOf? opening = some q)
    (h : quoted e q us = .ok (s, rest)) :
    RanOut e rest ∨ ∃ used, significant ts = used ++ significant rest ∧ Quoted used := by
  obtain ⟨opens, sort⟩ := quoteOfIff.1 mark
  rcases quotedSound h with all | ⟨body, closing, split, inside, closes⟩
  · exact .inl all
  · refine .inr ⟨opening :: body ++ [closing], ?_, .marks sort opens inside closes⟩
    rw [found, split]
    simp

theorem markMore {t : Token} {q : Punctuation} (mark : quoteOf? t = some q) :
    t.kind ≠ .endOfInput := by
  rw [(quoteOfIff.1 mark).1]
  simp

theorem namedSourceSound {s : String} (h : namedSource e ts = .ok (s, rest)) :
    RanOut e rest ∨ ∃ used, significant ts = used ++ significant rest ∧ Named used := by
  unfold namedSource at h
  split at h
  · contradiction
  · rename_i t more read
    split at h
    · rename_i q mark
      rcases quotedTakes (nextSignificantTakes read (markMore mark)) mark h with all | ⟨used, split, q⟩
      · exact .inl all
      · exact .inr ⟨used, split, .inr q⟩
    · split at h <;> cases h
      · rename_i kind
        exact .inr ⟨[t], nextSignificantTakes read (by simp [kind]), .inl (.inr ⟨t, rfl, kind⟩)⟩
      · exact .inr ⟨[], rfl, .inl (.inl rfl)⟩

theorem sourceSound {s : String} (h : source e ts = .ok (s, rest)) :
    RanOut e rest ∨
      ∃ used, significant ts = used ++ significant rest ∧ (used = [] ∨ Source used) := by
  unfold source at h
  split at h
  · contradiction
  · rename_i t more read
    split at h
    · rename_i word
      simp only [Bool.and_eq_true, decide_eq_true_eq, beq_iff_eq] at word
      have found := nextSignificantTakes read (by simp [word.1])
      rcases namedSourceSound h with all | ⟨used, split, named⟩
      · exact .inl all
      · exact .inr ⟨t :: used, by rw [found, split]; rfl, .inr (.named word.1 word.2 named)⟩
    · split at h
      · rename_i q mark
        rcases quotedTakes (nextSignificantTakes read (markMore mark)) mark h with
          all | ⟨used, split, q⟩
        · exact .inl all
        · exact .inr ⟨used, split, .inr (.quoted q)⟩
      · cases h
        exact .inr ⟨[], rfl, .inl rfl⟩

theorem wildcardSound {b : Bool} (h : wildcard e ts = .ok (b, rest)) :
    ∃ used, significant ts = used ++ significant rest ∧ Optional (.punctuation .asterisk) used := by
  unfold wildcard at h
  split at h
  · contradiction
  · rename_i t more read
    split at h <;> cases h
    · rename_i kind
      exact ⟨[t], nextSignificantTakes read (by simp [kind]), .inr ⟨t, rfl, kind⟩⟩
    · exact ⟨[], rfl, .inl rfl⟩

theorem importClauseSound {i : Import} {keyword : Token} (kind : keyword.kind = .keyword .imports)
    (h : importClause e ts = .ok (i, rest)) :
    RanOut e rest ∨
      ∃ used, significant ts = used ++ significant rest ∧ ImportClause (keyword :: used) := by
  obtain ⟨⟨path, ts₁⟩, readPath, h⟩ := bindOk h
  obtain ⟨⟨wild, ts₂⟩, readWild, h⟩ := bindOk h
  obtain ⟨⟨src, ts₃⟩, readSource, h⟩ := bindOk h
  cases h
  obtain ⟨t, takes, identifier, _⟩ := demandIdentifierSound readPath
  obtain ⟨star, splitStar, optional⟩ := wildcardSound readWild
  rcases sourceSound readSource with all | ⟨used, splitSource, from'⟩
  · exact .inl all
  · refine .inr ⟨t :: (star ++ used), ?_, .clause kind identifier optional from'⟩
    rw [takes, splitStar, splitSource]
    simp

theorem importsSound {is : List Import} (h : imports e ts = .ok (is, rest)) :
    RanOut e rest ∨
      ∃ used, significant ts = used ++ significant rest ∧ Imports used := by
  fun_induction imports e ts generalizing is with
  | case1 => contradiction
  | case2 => contradiction
  | case3 ts t more read kind i after clause ih =>
    cases tail : imports e after with
    | error r => rw [tail] at h; contradiction
    | ok r =>
      rw [tail] at h
      cases h
      have found := nextSignificantTakes read (by simp [kind])
      rcases ih tail with all | ⟨later, splitLater, listed⟩
      · exact .inl all
      rcases importClauseSound kind clause with all | ⟨used, split, first⟩
      · -- Where the text ended inside a quote, no further import was read.
        rw [all.2] at splitLater
        exact .inl ⟨all.1, (List.append_eq_nil_iff.1 splitLater.symm).2⟩
      · refine .inr ⟨t :: used ++ later, ?_, .cons first listed⟩
        rw [found, split, splitLater]
        simp
  | case4 ts t more read other =>
    cases h
    exact .inr ⟨[], rfl, .nil⟩

theorem entryTakes {f : VersionField} {n : UInt32} {more : List Token}
    (read : nextSignificant e ts = .ok (t, more)) (field : entryField? t.kind = some f)
    (number : versionNumber e f more = .ok (n, rest)) :
    ∃ value, significant ts = t :: value :: significant rest ∧
      (t.kind = .keyword .major ∨ t.kind = .keyword .minor) ∧
      ∃ n, VersionNumber.Writes value.literal n := by
  obtain ⟨value, takes, writes⟩ := versionNumberSound number
  have kind := entryFieldIff.1 ⟨f, field⟩
  have proper : t.kind ≠ .endOfInput := by rcases kind with k | k <;> simp [k]
  exact ⟨value, by rw [nextSignificantTakes read proper, takes], kind, n, writes⟩

theorem versionEntriesSound {major minor : UInt32} {v : UInt32 × UInt32}
    (h : versionEntries e major minor ts = .ok (v, rest)) :
    ∃ used closing, significant ts = used ++ closing :: significant rest ∧ Entries used ∧
      closing.kind = .punctuation .rightBrace := by
  fun_induction versionEntries e major minor ts with
  | case1 => contradiction
  | case2 => contradiction
  | case3 major minor ts t more read n after field number _ _ ih
  | case4 major minor ts t more read n after field number _ _ ih =>
    obtain ⟨value, takes, kind, writes⟩ := entryTakes read field number
    obtain ⟨used, closing, split, inside, closes⟩ := ih h
    exact ⟨t :: value :: used, closing, by rw [takes, split]; rfl, .cons kind writes inside, closes⟩
  | case5 major minor ts t more read _ closes =>
    cases h
    exact ⟨[], t, nextSignificantTakes read (by simp [closes]), .nil, closes⟩
  | case6 => contradiction

theorem versionBlockSound {v : UInt32 × UInt32} (h : versionBlock e ts = .ok (v, rest)) :
    Versioned (significant ts) := by
  unfold versionBlock at h
  split at h
  · contradiction
  · rename_i t more read
    split at h
    · rename_i keyword
      obtain ⟨inside, opening, h⟩ := bindOk h
      obtain ⟨o, takes, opens⟩ := demandSound (by simp) opening
      obtain ⟨entries, closing, split, listed, closes⟩ := versionEntriesSound h
      intro _ _ _
      refine ⟨t :: o :: (entries ++ [closing]), significant rest, ?_,
        .block keyword opens listed closes⟩
      rw [nextSignificantTakes read (by simp [keyword]), takes, split]
      simp
    · rename_i other
      intro u head keyword
      rcases nextSignificantSound read with found | ⟨all, _⟩
      · rw [found] at head
        cases head
        contradiction
      · rw [all] at head
        contradiction

theorem descriptionSound {d : Option String} (h : description e ts = .ok (d, rest)) :
    ∃ used, significant ts = used ++ significant rest ∧ Optional .description used := by
  unfold description at h
  split at h
  · contradiction
  · rename_i t more read
    split at h <;> cases h
    · rename_i kind
      exact ⟨[t], nextSignificantTakes read (by simp [kind]), .inr ⟨t, rfl, kind⟩⟩
    · exact ⟨[], rfl, .inl rfl⟩

theorem interfaceClauseSound {i : InterfaceClause} (h : interfaceClause e ts = .ok (i, rest)) :
    InterfaceBegins (significant ts) := by
  obtain ⟨⟨d, ts₁⟩, readDescription, h⟩ := bindOk h
  obtain ⟨ts₂, readInterface, h⟩ := bindOk h
  obtain ⟨⟨s, ts₃⟩, readName, h⟩ := bindOk h
  obtain ⟨ts₄, readOpening, h⟩ := bindOk h
  obtain ⟨⟨v, ts₅⟩, readVersion, h⟩ := bindOk h
  obtain ⟨used, split, documented⟩ := descriptionSound readDescription
  obtain ⟨k, takes, keyword⟩ := demandSound (by simp) readInterface
  obtain ⟨name, takesName, identifier, _⟩ := demandIdentifierSound readName
  obtain ⟨o, takesOpening, opens⟩ := demandSound (by simp) readOpening
  rw [split, takes, takesName, takesOpening]
  exact .clause documented keyword identifier opens (versionBlockSound readVersion)

theorem packageClauseSound {c : PackageClause} (h : packageClause e ts = .ok (c, rest)) :
    ∃ p name after, significant ts = p :: name :: after ∧ p.kind = .keyword .package ∧
      name.kind = .identifier ∧
      (RanOut e rest ∨ ∃ used, after = used ++ significant rest ∧ Imports used) := by
  obtain ⟨ts₁, readKeyword, h⟩ := bindOk h
  obtain ⟨⟨s, ts₂⟩, readName, h⟩ := bindOk h
  obtain ⟨⟨is, ts₃⟩, readImports, h⟩ := bindOk h
  cases h
  obtain ⟨p, takes, keyword⟩ := demandSound (by simp) readKeyword
  obtain ⟨name, takesName, identifier, _⟩ := demandIdentifierSound readName
  exact ⟨p, name, significant ts₂, by rw [takes, takesName], keyword, identifier,
    importsSound readImports⟩

theorem clausesSound {c : PackageClause × InterfaceClause} (h : clauses e ts = .ok (c, rest)) :
    HeaderBegins (significant ts) := by
  obtain ⟨⟨package, ts₁⟩, readPackage, h⟩ := bindOk h
  obtain ⟨⟨interface, ts₂⟩, readInterface, h⟩ := bindOk h
  obtain ⟨p, name, after, takes, keyword, identifier, listed⟩ := packageClauseSound readPackage
  have begins := interfaceClauseSound readInterface
  rcases listed with all | ⟨used, split, listed⟩
  · -- Nothing is left where the interface clause would have to stand.
    obtain ⟨t, us, front, _⟩ := interfaceFront begins
    rw [all.2] at front
    contradiction
  · rw [takes, split]
    exact .clauses keyword identifier listed begins

end Busbind.HeaderGrammar
