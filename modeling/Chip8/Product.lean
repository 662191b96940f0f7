/-! # The program's name

What the program calls itself in its banner, in window titles and in crash reports.
-/

namespace Chip8.Product

def name : String := "ChocChip-8 Emulator"

def version : String := "1.0.0"

def notice : String :=
  "Copyright (C) 2024 Gregory Maynard-Hoare, licensed under GNU Affero General Public License v3.0"

/-- Opens the banner and every crash report. -/
def intro : String := name ++ " V" ++ version ++ " -- "

def banner : String := intro ++ notice

end Chip8.Product
