import DeviceHub.Unicode.Category

/-!
Which characters may stand for themselves in quoted text.
-/
namespace DeviceHub.Text

/-- A character that can be read where it stands: it shows something, and does so on its own. -/
def isPrintable (c : Char) : Bool :=
  if 0x20 ≤ c.toNat && c.toNat < 0x7F then true
  else
    !Unicode.unassigned.contains c && !Unicode.controls.contains c &&
      !Unicode.separators.contains c && !Unicode.fillers.contains c && !Unicode.extenders.contains c

end DeviceHub.Text
