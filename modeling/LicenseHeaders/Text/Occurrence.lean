/-!
# Occurrence

Whether a text occurs within another one. `occursIn` is the check, and `occursIn_iff` says that
it holds exactly where the other text has the first one between two further pieces.
-/

set_option autoImplicit false
set_option relaxedAutoImplicit false

namespace LicenseHeaders.Text

/-- Whether a text occurs within another one, as one piece. -/
def occursIn (piece : List Char) : List Char → Bool
  | [] => piece.isEmpty
  | c :: rest => piece.isPrefixOf (c :: rest) || occursIn piece rest

theorem occursIn_iff (piece text : List Char) : occursIn piece text = true ↔ piece <:+: text := by
  induction text with
  | nil => simp [occursIn]
  | cons c rest ih => simp [occursIn, ih, List.infix_cons_iff]

end LicenseHeaders.Text
