import RecordScript.Unicode.RangeTable

/-!
# General categories

The thirty general categories of characters under their two-letter codes, and the names of
categories and groups of categories by which patterns refer to them.
-/

namespace RecordScript.Unicode

/-- A general category, named by its two-letter code. -/
inductive GeneralCategory where
  | lu | ll | lt | lm | lo
  | mn | mc | me
  | nd | nl | no
  | pc | pd | ps | pe | pi | pf | po
  | sm | sc | sk | so
  | zs | zl | zp
  | cc | cf | cs | co | cn
deriving DecidableEq, Repr

namespace GeneralCategory

/-- Whether the category is one of the three kinds of marks. -/
def isMark : GeneralCategory → Bool
  | mn | mc | me => true
  | _ => false

/-- Whether characters of the category leave no ink: controls, formats, separators, private and
unassigned characters. -/
def isInvisible : GeneralCategory → Bool
  | zs | zl | zp | cc | cf | cs | co | cn => true
  | _ => false

/-- The names of each group of categories: its code, then its longer names. -/
def groups : List (List String × List GeneralCategory) := [
  (["Lu", "Uppercase_Letter"], [lu]), (["Ll", "Lowercase_Letter"], [ll]),
  (["Lt", "Titlecase_Letter"], [lt]), (["LC", "Cased_Letter"], [lu, ll, lt]),
  (["Lm", "Modifier_Letter"], [lm]), (["Lo", "Other_Letter"], [lo]),
  (["L", "Letter"], [lu, ll, lt, lm, lo]),
  (["Mn", "Nonspacing_Mark"], [mn]), (["Mc", "Spacing_Mark"], [mc]),
  (["Me", "Enclosing_Mark"], [me]), (["M", "Mark", "Combining_Mark"], [mn, mc, me]),
  (["Nd", "Decimal_Number", "digit"], [nd]), (["Nl", "Letter_Number"], [nl]),
  (["No", "Other_Number"], [no]), (["N", "Number"], [nd, nl, no]),
  (["Pc", "Connector_Punctuation"], [pc]), (["Pd", "Dash_Punctuation"], [pd]),
  (["Ps", "Open_Punctuation"], [ps]), (["Pe", "Close_Punctuation"], [pe]),
  (["Pi", "Initial_Punctuation"], [pi]), (["Pf", "Final_Punctuation"], [pf]),
  (["Po", "Other_Punctuation"], [po]),
  (["P", "Punctuation", "punct"], [pc, pd, ps, pe, pi, pf, po]),
  (["Sm", "Math_Symbol"], [sm]), (["Sc", "Currency_Symbol"], [sc]),
  (["Sk", "Modifier_Symbol"], [sk]), (["So", "Other_Symbol"], [so]),
  (["S", "Symbol"], [sm, sc, sk, so]),
  (["Zs", "Space_Separator"], [zs]), (["Zl", "Line_Separator"], [zl]),
  (["Zp", "Paragraph_Separator"], [zp]), (["Z", "Separator"], [zs, zl, zp]),
  (["Cc", "Control", "cntrl"], [cc]), (["Cf", "Format"], [cf]), (["Cs", "Surrogate"], [cs]),
  (["Co", "Private_Use"], [co]), (["Cn", "Unassigned"], [cn]),
  (["C", "Other"], [cc, cf, cs, co, cn])]

end GeneralCategory

end RecordScript.Unicode
