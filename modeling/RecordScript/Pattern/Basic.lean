import RecordScript.Pattern.Engine

/-!
# Patterns as values

A pattern keeps the text it was compiled from and whether it ignores case. For one engine these two
decide everything else about it, so patterns are equal when they agree in both.
-/

namespace RecordScript

variable [RegexEngine]

/-- A pattern with the test that its text compiles to. -/
structure Pattern where
  source : String
  ignoreCase : Bool
  test : String → Bool
  compile_eq : RegexEngine.compile source ignoreCase = .ok test

namespace Pattern

/-- The pattern that a text spells, or the report of the engine on the text. -/
def ofSource (source : String) (ignoreCase : Bool) : Except String Pattern :=
  match h : RegexEngine.compile source ignoreCase with
  | .ok test => .ok ⟨source, ignoreCase, test, h⟩
  | .error report => .error report

/-- Whether the pattern matches somewhere in the text. -/
def isMatch (p : Pattern) (text : String) : Bool := p.test text

theorem ext {p q : Pattern} (source : p.source = q.source)
    (ignoreCase : p.ignoreCase = q.ignoreCase) : p = q := by
  obtain ⟨ps, pc, pt, hp⟩ := p
  obtain ⟨qs, qc, qt, hq⟩ := q
  subst source ignoreCase
  obtain rfl : pt = qt := Except.ok.inj (hp.symm.trans hq)
  rfl

instance : DecidableEq Pattern := fun p q =>
  if h : p.source = q.source ∧ p.ignoreCase = q.ignoreCase then
    isTrue (ext h.1 h.2)
  else isFalse fun e => h ⟨e ▸ rfl, e ▸ rfl⟩

instance : Repr Pattern where
  reprPrec p _ := repr p.source

end Pattern

end RecordScript
