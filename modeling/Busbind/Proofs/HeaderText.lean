import Busbind.Proofs.HeaderGrammar

/-! Where the text of a token counts whatever its kind is: between the quotation marks of an import's
source, and as the value of a version entry. A place is told by the significant tokens before it and
behind it. -/
namespace Busbind.HeaderText
open Header HeaderGrammar

def Inside (q : Punctuation) (before : List Token) (t : Token) (after : List Token) : Prop :=
  (∀ u ∈ before, u.kind ≠ .punctuation q) ∧ t.kind ≠ .punctuation q ∧
    ∃ u ∈ after, u.kind = .punctuation q

inductive InName : List Token → Token → List Token → Prop where
  | quoted {q opening before t after} (opens : quoteOf? opening = some q)
      (inside : Inside q before t after) : InName (opening :: before) t after

inductive InSource : List Token → Token → List Token → Prop where
  | quoted {before t after} (h : InName before t after) : InSource before t after
  | named {f before t after} (kind : f.kind = .identifier) (word : f.literal = "from")
      (h : InName before t after) : InSource (f :: before) t after

inductive InClause : List Token → Token → List Token → Prop where
  | source {path star before t after} (identifier : path.kind = .identifier)
      (wild : Optional (.punctuation .asterisk) star) (h : InSource before t after) :
      InClause (path :: (star ++ before)) t after

inductive InImports : List Token → Token → List Token → Prop where
  | clause {earlier i before t after} (listed : Imports earlier)
      (keyword : i.kind = .keyword .imports) (h : InClause before t after) :
      InImports (earlier ++ i :: before) t after

inductive InEntries : List Token → Token → List Token → Prop where
  | value {earlier f t after} (listed : Entries earlier)
      (field : f.kind = .keyword .major ∨ f.kind = .keyword .minor) :
      InEntries (earlier ++ [f]) t after

inductive InBlock : List Token → Token → List Token → Prop where
  | entries {v opening before t after} (keyword : v.kind = .keyword .version)
      (opens : opening.kind = .punctuation .leftBrace) (h : InEntries before t after) :
      InBlock (v :: opening :: before) t after

inductive InInterface : List Token → Token → List Token → Prop where
  | block {description i name opening before t after}
      (documented : Optional .description description) (keyword : i.kind = .keyword .interface)
      (identifier : name.kind = .identifier) (opens : opening.kind = .punctuation .leftBrace)
      (h : InBlock before t after) :
      InInterface (description ++ i :: name :: opening :: before) t after

inductive QuotedAt : List Token → Token → List Token → Prop where
  | source {p name before t after} (keyword : p.kind = .keyword .package)
      (identifier : name.kind = .identifier) (h : InImports before t after) :
      QuotedAt (p :: name :: before) t after

inductive ValueAt : List Token → Token → List Token → Prop where
  | entry {p name imports before t after} (keyword : p.kind = .keyword .package)
      (identifier : name.kind = .identifier) (listed : Imports imports)
      (h : InInterface before t after) : ValueAt (p :: name :: (imports ++ before)) t after

def Undescribed (R : List Token → Token → List Token → Prop) (ts : List Token) : Prop :=
  ∀ before t after, significant ts = before ++ t :: after → R before t after →
    t.kind ≠ .description

section Places
variable {before after : List Token} {t : Token}

theorem sourceMarked (h : InSource before t after) : ∃ o ∈ before, (quoteOf? o).isSome = true := by
  have named {us : List Token} (h : InName us t after) : ∃ o ∈ us, (quoteOf? o).isSome = true := by
    cases h with
    | quoted opens _ => exact ⟨_, List.mem_cons_self, by simp [opens]⟩
  cases h with
  | quoted h => exact named h
  | named _ _ h =>
    obtain ⟨o, mem, mark⟩ := named h
    exact ⟨o, List.mem_cons_of_mem _ mem, mark⟩

theorem quotedMarked (h : QuotedAt before t after) : ∃ o ∈ before, (quoteOf? o).isSome = true := by
  cases h with
  | source _ _ imports =>
    cases imports with
    | clause _ _ clause =>
      cases clause with
      | source _ _ source =>
        obtain ⟨o, mem, mark⟩ := sourceMarked source
        exact ⟨o, by simp [mem], mark⟩

theorem valueNamed (h : ValueAt before t after) :
    ∃ f, before.getLast? = some f ∧ (f.kind = .keyword .major ∨ f.kind = .keyword .minor) := by
  cases h with
  | entry _ _ _ interface =>
    cases interface with
    | block _ _ _ _ block =>
      cases block with
      | entries _ _ entries =>
        cases entries with
        | @value earlier f _ _ _ field => exact ⟨f, by simp [List.getLast?_cons], field⟩

theorem insideFurther {q : Punctuation} (h : Inside q before t after) (more : List Token) :
    Inside q before t (after ++ more) := by
  obtain ⟨behind, other, u, mem, closes⟩ := h
  exact ⟨behind, other, u, List.mem_append_left more mem, closes⟩

theorem sourceFurther (h : InSource before t after) (more : List Token) :
    InSource before t (after ++ more) := by
  have named {us : List Token} (h : InName us t after) : InName us t (after ++ more) := by
    cases h with
    | quoted opens inside => exact .quoted opens (insideFurther inside more)
  cases h with
  | quoted h => exact .quoted (named h)
  | named kind word h => exact .named kind word (named h)

theorem quotedFurther (h : QuotedAt before t after) (more : List Token) :
    QuotedAt before t (after ++ more) := by
  cases h with
  | source keyword identifier imports =>
    cases imports with
    | clause listed starts clause =>
      cases clause with
      | source path wild source =>
        exact .source keyword identifier
          (.clause listed starts (.source path wild (sourceFurther source more)))

theorem valueFurther (h : ValueAt before t after) (more : List Token) :
    ValueAt before t (after ++ more) := by
  cases h with
  | entry keyword identifier imports interface =>
    cases interface with
    | block documented starts name opens block =>
      cases block with
      | entries version body entries =>
        cases entries with
        | value listed field =>
          exact .entry keyword identifier imports
            (.block documented starts name opens (.entries version body (.value listed field)))

end Places

end Busbind.HeaderText
