import Scaffold.Text.Case

/-!
# Plain forms

Variants of ASCII letters, digits and underscores among the characters of identifiers, by the
compatibility mappings of Unicode 14: other styles and widths, raised and lowered letters,
ligatures, Roman numbers.  Names that differ in such variants only are one name where a program
keeps its variables.
-/

namespace Scaffold.Text

/-- Characters that are a variant of one ASCII character. -/
def plainRuns : List ShiftRun := [
  ⟨170, 170, 1, -73⟩, ⟨186, 186, 1, -75⟩, ⟨383, 383, 1, -268⟩, ⟨688, 690, 2, -584⟩,
  ⟨691, 691, 1, -577⟩, ⟨695, 695, 1, -576⟩, ⟨696, 696, 1, -575⟩, ⟨737, 737, 1, -629⟩,
  ⟨738, 738, 1, -623⟩, ⟨739, 739, 1, -619⟩, ⟨7468, 7468, 1, -7403⟩, ⟨7470, 7482, 3, -7404⟩,
  ⟨7472, 7481, 3, -7404⟩, ⟨7477, 7480, 3, -7404⟩, ⟨7484, 7487, 3, -7405⟩, ⟨7486, 7486, 1, -7406⟩,
  ⟨7488, 7489, 1, -7404⟩, ⟨7490, 7490, 1, -7403⟩, ⟨7491, 7491, 1, -7394⟩, ⟨7495, 7495, 1, -7397⟩,
  ⟨7496, 7497, 1, -7396⟩, ⟨7501, 7501, 1, -7398⟩, ⟨7503, 7503, 1, -7396⟩, ⟨7504, 7506, 2, -7395⟩,
  ⟨7510, 7510, 1, -7398⟩, ⟨7511, 7512, 1, -7395⟩, ⟨7515, 7515, 1, -7397⟩, ⟨7522, 7522, 1, -7417⟩,
  ⟨7523, 7523, 1, -7409⟩, ⟨7524, 7525, 1, -7407⟩, ⟨7580, 7580, 1, -7481⟩, ⟨7584, 7584, 1, -7482⟩,
  ⟨7611, 7611, 1, -7489⟩, ⟨8305, 8305, 1, -8200⟩, ⟨8319, 8319, 1, -8209⟩, ⟨8336, 8336, 1, -8239⟩,
  ⟨8337, 8337, 1, -8236⟩, ⟨8338, 8338, 1, -8227⟩, ⟨8339, 8339, 1, -8219⟩, ⟨8341, 8341, 1, -8237⟩,
  ⟨8342, 8345, 1, -8235⟩, ⟨8346, 8346, 1, -8234⟩, ⟨8347, 8348, 1, -8232⟩, ⟨8450, 8450, 1, -8383⟩,
  ⟨8458, 8458, 1, -8355⟩, ⟨8459, 8459, 1, -8387⟩, ⟨8460, 8460, 1, -8388⟩, ⟨8461, 8461, 1, -8389⟩,
  ⟨8462, 8462, 1, -8358⟩, ⟨8464, 8464, 1, -8391⟩, ⟨8465, 8465, 1, -8392⟩, ⟨8466, 8466, 1, -8390⟩,
  ⟨8467, 8467, 1, -8359⟩, ⟨8469, 8469, 1, -8391⟩, ⟨8473, 8475, 1, -8393⟩, ⟨8476, 8476, 1, -8394⟩,
  ⟨8477, 8477, 1, -8395⟩, ⟨8484, 8484, 1, -8394⟩, ⟨8488, 8488, 1, -8398⟩, ⟨8490, 8490, 1, -8415⟩,
  ⟨8492, 8493, 1, -8426⟩, ⟨8495, 8495, 1, -8394⟩, ⟨8496, 8497, 1, -8427⟩, ⟨8499, 8499, 1, -8422⟩,
  ⟨8500, 8500, 1, -8389⟩, ⟨8505, 8505, 1, -8400⟩, ⟨8517, 8517, 1, -8449⟩, ⟨8518, 8519, 1, -8418⟩,
  ⟨8520, 8521, 1, -8415⟩, ⟨8544, 8544, 1, -8471⟩, ⟨8548, 8548, 1, -8462⟩, ⟨8553, 8553, 1, -8465⟩,
  ⟨8556, 8556, 1, -8480⟩, ⟨8557, 8558, 1, -8490⟩, ⟨8559, 8559, 1, -8482⟩, ⟨8560, 8560, 1, -8455⟩,
  ⟨8564, 8564, 1, -8446⟩, ⟨8569, 8569, 1, -8449⟩, ⟨8572, 8572, 1, -8464⟩, ⟨8573, 8574, 1, -8474⟩,
  ⟨8575, 8575, 1, -8466⟩, ⟨11388, 11388, 1, -11282⟩, ⟨11389, 11389, 1, -11303⟩,
  ⟨42994, 42994, 1, -42927⟩, ⟨42995, 42995, 1, -42925⟩, ⟨42996, 42996, 1, -42915⟩,
  ⟨65075, 65075, 1, -64980⟩, ⟨65076, 65076, 1, -64981⟩, ⟨65101, 65101, 1, -65006⟩,
  ⟨65102, 65102, 1, -65007⟩, ⟨65103, 65103, 1, -65008⟩, ⟨65296, 65305, 1, -65248⟩,
  ⟨65313, 65370, 1, -65248⟩, ⟨67493, 67493, 1, -67380⟩, ⟨119808, 119833, 1, -119743⟩,
  ⟨119834, 119859, 1, -119737⟩, ⟨119860, 119885, 1, -119795⟩, ⟨119886, 119911, 1, -119789⟩,
  ⟨119912, 119937, 1, -119847⟩, ⟨119938, 119963, 1, -119841⟩, ⟨119964, 119989, 1, -119899⟩,
  ⟨119990, 120015, 1, -119893⟩, ⟨120016, 120041, 1, -119951⟩, ⟨120042, 120067, 1, -119945⟩,
  ⟨120068, 120092, 1, -120003⟩, ⟨120094, 120119, 1, -119997⟩, ⟨120120, 120144, 1, -120055⟩,
  ⟨120146, 120171, 1, -120049⟩, ⟨120172, 120197, 1, -120107⟩, ⟨120198, 120223, 1, -120101⟩,
  ⟨120224, 120249, 1, -120159⟩, ⟨120250, 120275, 1, -120153⟩, ⟨120276, 120301, 1, -120211⟩,
  ⟨120302, 120327, 1, -120205⟩, ⟨120328, 120353, 1, -120263⟩, ⟨120354, 120379, 1, -120257⟩,
  ⟨120380, 120405, 1, -120315⟩, ⟨120406, 120431, 1, -120309⟩, ⟨120432, 120457, 1, -120367⟩,
  ⟨120458, 120483, 1, -120361⟩, ⟨120782, 120791, 1, -120734⟩, ⟨120792, 120801, 1, -120744⟩,
  ⟨120802, 120811, 1, -120754⟩, ⟨120812, 120821, 1, -120764⟩, ⟨120822, 120831, 1, -120774⟩,
  ⟨130032, 130041, 1, -129984⟩]

/-- Characters that are a variant of several ASCII characters. -/
def plainSpecials : List (Nat × List Nat) := [
  (306, [73, 74]), (307, [105, 106]), (455, [76, 74]), (456, [76, 106]), (457, [108, 106]),
  (458, [78, 74]), (459, [78, 106]), (460, [110, 106]), (497, [68, 90]), (498, [68, 122]),
  (499, [100, 122]), (8545, [73, 73]), (8546, [73, 73, 73]), (8547, [73, 86]), (8549, [86, 73]),
  (8550, [86, 73, 73]), (8551, [86, 73, 73, 73]), (8552, [73, 88]), (8554, [88, 73]),
  (8555, [88, 73, 73]), (8561, [105, 105]), (8562, [105, 105, 105]), (8563, [105, 118]),
  (8565, [118, 105]), (8566, [118, 105, 105]), (8567, [118, 105, 105, 105]), (8568, [105, 120]),
  (8570, [120, 105]), (8571, [120, 105, 105]), (64256, [102, 102]), (64257, [102, 105]),
  (64258, [102, 108]), (64259, [102, 102, 105]), (64260, [102, 102, 108]), (64261, [115, 116]),
  (64262, [115, 116])]

/-- The ASCII characters of which a character is a variant, else itself. -/
def plainChar (c : Char) : List Char := mapped plainSpecials plainRuns c

/-- A name with its variants of ASCII characters written plainly. -/
def plainName (name : String) : String := String.ofList (name.toList.flatMap plainChar)

end Scaffold.Text
