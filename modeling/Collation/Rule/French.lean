import Collation.Text

/-! The rule file for French that comes with the program. -/

namespace Collation.Rule

/-- The lines of the file, in which lower case letters come before upper case letters. -/
def frenchLines : List String :=
  [
    "# French collation rules.",
    "#",
    "# Symbols and digits sort before letters; the listed symbols all share one weight.",
    "# Each accented letter is a separate primary letter after its base letter, lower case before upper case:",
    "#   a, à, â, then æ (ligatures are letters of their own, not \"ae\").",
    "#   e, é, è, ê, ë   i, î, ï   o, ô, ö, œ   u, ù, û, ü   y, ÿ",
    "# î only differs from I by accent, and V from v only by case.",
    "",
    "< '@'='!'='#'='$'='%'='&'='*'",
    "< 0 < 1 < 2 < 3 < 4 < 5 < 6 < 7 < 8 < 9",
    "< a < A < à < À < â < Â < æ < Æ",
    "< b < B < c < C < ç < Ç < d < D",
    "< e < E < é < É < è < È < ê < Ê < ë < Ë",
    "< f < F < g < G < h < H",
    "< i < I ; î < Î < ï < Ï",
    "< j < J < k < K < l < L < m < M < n < N",
    "< o < O < ô < Ô < ö < Ö < œ < Œ",
    "< p < P < q < Q < r < R < s < S < t < T",
    "< u < U < ù < Ù < û < Û < ü < Ü",
    "< v , V < w < W < x < X < y < Y < ÿ < Ÿ < z < Z"]

def frenchFile : Text :=
  frenchLines.flatMap fun line => line.toList ++ ['\n']

end Collation.Rule
