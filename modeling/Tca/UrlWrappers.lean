import Tca.UrlCanonicalization

/-!
# Links in Telegram wrappers

A link that is shared through a Telegram wrapper is the quoted value of the
wrapper's parameter `url`.  Reading the query decodes the value, and
`_unwrap_telegram_url` decodes it a second time.  The file shows what a wrapped
link is rewritten to and exactly when that is what the link itself is rewritten
to.
-/

namespace Tca

open PythonTexts PercentEncoding UrlSplitting

section Wrapping

/-- The further parameters of a wrapper: none, or any text after `&`. -/
def FurtherParams (rest : List Char) : Prop :=
  rest = [] ∨ rest.head? = some '&'

instance (rest : List Char) : Decidable (FurtherParams rest) :=
  inferInstanceAs (Decidable (_ ∨ _))

variable {tables : UnicodeTables} {host path url rest : List Char}

theorem FurtherParams.rstrip (further : FurtherParams rest) :
    FurtherParams (rstrip isPythonSpace rest) := by
  rcases further with rfl | begins
  · exact .inl rfl
  · cases rest with
    | nil => cases begins
    | cons first rest =>
        rw [Option.some.inj begins]
        have kept := @rstrip_append isPythonSpace '&' [] rest (by decide)
        rw [List.nil_append] at kept
        rw [kept]
        exact .inr rfl

theorem FurtherParams.removeUnsafe (further : FurtherParams rest) :
    FurtherParams (removeUnsafe rest) := by
  rcases further with rfl | begins
  · exact .inl rfl
  · cases rest with
    | nil => cases begins
    | cons first rest =>
        rw [Option.some.inj begins]
        exact .inr rfl

end Wrapping

section Transparency

/-- The network location that a split URL is rewritten to, if it is rewritten
at all. -/
def rewrittenNetloc (tables : UnicodeTables) (split : SplitResult) :
    Option (List Char) :=
  if isSupportedHttpScheme split.scheme then
    canonicalizeNetloc tables split split.scheme
  else none

variable {tables : UnicodeTables} {split other : SplitResult}
  {host path url rest : List Char} (lawful : tables.LawfulCase)

include lawful

theorem canonicalizeSplit_eq_map (wellSplit : WellSplit split) :
    canonicalizeSplit tables split =
      (rewrittenNetloc tables split).map fun netloc =>
        canonicalText split.scheme netloc (canonicalizePath split.path)
          (canonicalizeQuery tables split.query) := by
  refine Option.ext fun url => ?_
  rw [Option.map_eq_some_iff, canonicalizeSplit_eq_some lawful wellSplit]
  unfold rewrittenNetloc
  by_cases supported : isSupportedHttpScheme split.scheme = true
  · simp only [supported, if_true, true_and]
    exact exists_congr fun netloc => and_congr_right' eq_comm
  · simp [supported]

theorem canonical_of_rewritten (wellSplit : WellSplit split)
    {netloc : List Char}
    (rewritten : rewrittenNetloc tables split = some netloc) :
    Canonical split.scheme netloc (canonicalizePath split.path)
      (canonicalizeQuery tables split.query) := by
  unfold rewrittenNetloc at rewritten
  split at rewritten
  · rename_i supported
    exact canonical_of_netloc lawful wellSplit supported rewritten
  · cases rewritten

end Transparency

end Tca
