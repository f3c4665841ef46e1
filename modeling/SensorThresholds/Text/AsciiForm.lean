/-!
Characters beyond ASCII that count as digits, letters of hexadecimal numbers or stops in the names
of hosts, and those that do not count there at all.
-/

namespace SensorThresholds

set_option maxRecDepth 10000

/-- Characters in a row that stand for ASCII characters in a row, or for the same text. -/
structure FormRun where
  first : Nat
  last : Nat
  text : String

def asciiForms : List FormRun :=
  [⟨170, 170, "a"⟩, ⟨173, 173, ""⟩, ⟨178, 179, "2"⟩, ⟨185, 185, "1"⟩, ⟨739, 739, "x"⟩,
   ⟨847, 847, ""⟩, ⟨6155, 6157, ""⟩, ⟨6159, 6159, ""⟩, ⟨7468, 7468, "a"⟩, ⟨7470, 7470, "b"⟩,
   ⟨7472, 7473, "d"⟩, ⟨7491, 7491, "a"⟩, ⟨7495, 7495, "b"⟩, ⟨7496, 7497, "d"⟩, ⟨7580, 7580, "c"⟩,
   ⟨7584, 7584, "f"⟩, ⟨8203, 8203, ""⟩, ⟨8288, 8288, ""⟩, ⟨8292, 8292, ""⟩, ⟨8304, 8304, "0"⟩,
   ⟨8308, 8313, "4"⟩, ⟨8320, 8329, "0"⟩, ⟨8336, 8336, "a"⟩, ⟨8337, 8337, "e"⟩, ⟨8339, 8339, "x"⟩,
   ⟨8450, 8450, "c"⟩, ⟨8492, 8493, "b"⟩, ⟨8495, 8495, "e"⟩, ⟨8496, 8497, "e"⟩, ⟨8507, 8507, "fax"⟩,
   ⟨8517, 8517, "d"⟩, ⟨8518, 8519, "d"⟩, ⟨8553, 8553, "x"⟩, ⟨8557, 8558, "c"⟩, ⟨8569, 8569, "x"⟩,
   ⟨8573, 8574, "c"⟩, ⟨9312, 9320, "1"⟩, ⟨9321, 9321, "10"⟩, ⟨9322, 9322, "11"⟩, ⟨9323, 9323, "12"⟩,
   ⟨9324, 9324, "13"⟩, ⟨9325, 9325, "14"⟩, ⟨9326, 9326, "15"⟩, ⟨9327, 9327, "16"⟩,
   ⟨9328, 9328, "17"⟩, ⟨9329, 9329, "18"⟩, ⟨9330, 9330, "19"⟩, ⟨9331, 9331, "20"⟩,
   ⟨9398, 9403, "a"⟩, ⟨9421, 9421, "x"⟩, ⟨9424, 9429, "a"⟩, ⟨9447, 9447, "x"⟩, ⟨9450, 9450, "0"⟩,
   ⟨12290, 12290, "."⟩, ⟨12881, 12881, "21"⟩, ⟨12882, 12882, "22"⟩, ⟨12883, 12883, "23"⟩,
   ⟨12884, 12884, "24"⟩, ⟨12885, 12885, "25"⟩, ⟨12886, 12886, "26"⟩, ⟨12887, 12887, "27"⟩,
   ⟨12888, 12888, "28"⟩, ⟨12889, 12889, "29"⟩, ⟨12890, 12890, "30"⟩, ⟨12891, 12891, "31"⟩,
   ⟨12892, 12892, "32"⟩, ⟨12893, 12893, "33"⟩, ⟨12894, 12894, "34"⟩, ⟨12895, 12895, "35"⟩,
   ⟨12977, 12977, "36"⟩, ⟨12978, 12978, "37"⟩, ⟨12979, 12979, "38"⟩, ⟨12980, 12980, "39"⟩,
   ⟨12981, 12981, "40"⟩, ⟨12982, 12982, "41"⟩, ⟨12983, 12983, "42"⟩, ⟨12984, 12984, "43"⟩,
   ⟨12985, 12985, "44"⟩, ⟨12986, 12986, "45"⟩, ⟨12987, 12987, "46"⟩, ⟨12988, 12988, "47"⟩,
   ⟨12989, 12989, "48"⟩, ⟨12990, 12990, "49"⟩, ⟨12991, 12991, "50"⟩, ⟨13170, 13170, "da"⟩,
   ⟨13252, 13252, "cc"⟩, ⟨13253, 13253, "cd"⟩, ⟨13256, 13256, "db"⟩, ⟨42994, 42994, "c"⟩,
   ⟨42995, 42995, "f"⟩, ⟨64256, 64256, "ff"⟩, ⟨65024, 65039, ""⟩, ⟨65279, 65279, ""⟩,
   ⟨65294, 65294, "."⟩, ⟨65296, 65305, "0"⟩, ⟨65313, 65318, "a"⟩, ⟨65336, 65336, "x"⟩,
   ⟨65345, 65350, "a"⟩, ⟨65368, 65368, "x"⟩, ⟨65377, 65377, "."⟩, ⟨113824, 113827, ""⟩,
   ⟨119808, 119813, "a"⟩, ⟨119831, 119831, "x"⟩, ⟨119834, 119839, "a"⟩, ⟨119857, 119857, "x"⟩,
   ⟨119860, 119865, "a"⟩, ⟨119883, 119883, "x"⟩, ⟨119886, 119891, "a"⟩, ⟨119909, 119909, "x"⟩,
   ⟨119912, 119917, "a"⟩, ⟨119935, 119935, "x"⟩, ⟨119938, 119943, "a"⟩, ⟨119961, 119961, "x"⟩,
   ⟨119964, 119964, "a"⟩, ⟨119966, 119967, "c"⟩, ⟨119987, 119987, "x"⟩, ⟨119990, 119993, "a"⟩,
   ⟨119995, 119995, "f"⟩, ⟨120013, 120013, "x"⟩, ⟨120016, 120021, "a"⟩, ⟨120039, 120039, "x"⟩,
   ⟨120042, 120047, "a"⟩, ⟨120065, 120065, "x"⟩, ⟨120068, 120069, "a"⟩, ⟨120071, 120073, "d"⟩,
   ⟨120091, 120091, "x"⟩, ⟨120094, 120099, "a"⟩, ⟨120117, 120117, "x"⟩, ⟨120120, 120121, "a"⟩,
   ⟨120123, 120125, "d"⟩, ⟨120143, 120143, "x"⟩, ⟨120146, 120151, "a"⟩, ⟨120169, 120169, "x"⟩,
   ⟨120172, 120177, "a"⟩, ⟨120195, 120195, "x"⟩, ⟨120198, 120203, "a"⟩, ⟨120221, 120221, "x"⟩,
   ⟨120224, 120229, "a"⟩, ⟨120247, 120247, "x"⟩, ⟨120250, 120255, "a"⟩, ⟨120273, 120273, "x"⟩,
   ⟨120276, 120281, "a"⟩, ⟨120299, 120299, "x"⟩, ⟨120302, 120307, "a"⟩, ⟨120325, 120325, "x"⟩,
   ⟨120328, 120333, "a"⟩, ⟨120351, 120351, "x"⟩, ⟨120354, 120359, "a"⟩, ⟨120377, 120377, "x"⟩,
   ⟨120380, 120385, "a"⟩, ⟨120403, 120403, "x"⟩, ⟨120406, 120411, "a"⟩, ⟨120429, 120429, "x"⟩,
   ⟨120432, 120437, "a"⟩, ⟨120455, 120455, "x"⟩, ⟨120458, 120463, "a"⟩, ⟨120481, 120481, "x"⟩,
   ⟨120782, 120791, "0"⟩, ⟨120792, 120801, "0"⟩, ⟨120802, 120811, "0"⟩, ⟨120812, 120821, "0"⟩,
   ⟨120822, 120831, "0"⟩, ⟨127275, 127275, "c"⟩, ⟨127277, 127277, "cd"⟩, ⟨127280, 127285, "a"⟩,
   ⟨127303, 127303, "x"⟩, ⟨130032, 130041, "0"⟩, ⟨917760, 917999, ""⟩]

def FormRun.form (run : FormRun) (c : Char) : List Char :=
  match run.text.toList with
  | [start] => [.ofNat (start.toNat + (c.toNat - run.first))]
  | text => text

/-- What a character counts as in the name of a host. -/
def asciiForm (c : Char) : List Char :=
  if c.toNat < 0x80 then [c.toLower]
  else
    match asciiForms.find? fun run => run.first ≤ c.toNat && c.toNat ≤ run.last with
    | some run => run.form c
    | none => [c]

end SensorThresholds
