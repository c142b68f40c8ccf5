/-!
# Full upper-case mapping

The upper-case form of a character as Unicode gives it without regard to language: most letters map
to one character, some to two or three (the sharp s to two letters S), all others to themselves.
-/

namespace TriggerPlan.Text

/-! ## Tables -/

/-- A run of letters whose upper-case form is one character at a fixed distance: the code points
`first`, `first + stride`, … up to `last`, each mapped by adding `delta`. -/
structure CaseRun where
  first : Nat
  last : Nat
  stride : Nat
  delta : Int

/-- The letters whose upper-case form is one other character, in increasing order. -/
def caseRuns : List CaseRun :=
  [
    ⟨0x61, 0x7a, 1, -32⟩, ⟨0xb5, 0xb5, 1, 743⟩, ⟨0xe0, 0xf6, 1, -32⟩, ⟨0xf8, 0xfe, 1, -32⟩,
    ⟨0xff, 0xff, 1, 121⟩, ⟨0x101, 0x12f, 2, -1⟩, ⟨0x131, 0x131, 1, -232⟩, ⟨0x133, 0x137, 2, -1⟩,
    ⟨0x13a, 0x148, 2, -1⟩, ⟨0x14b, 0x177, 2, -1⟩, ⟨0x17a, 0x17e, 2, -1⟩, ⟨0x17f, 0x17f, 1, -300⟩,
    ⟨0x180, 0x180, 1, 195⟩, ⟨0x183, 0x185, 2, -1⟩, ⟨0x188, 0x188, 1, -1⟩, ⟨0x18c, 0x18c, 1, -1⟩,
    ⟨0x192, 0x192, 1, -1⟩, ⟨0x195, 0x195, 1, 97⟩, ⟨0x199, 0x199, 1, -1⟩, ⟨0x19a, 0x19a, 1, 163⟩,
    ⟨0x19b, 0x19b, 1, 42561⟩, ⟨0x19e, 0x19e, 1, 130⟩, ⟨0x1a1, 0x1a5, 2, -1⟩, ⟨0x1a8, 0x1a8, 1, -1⟩,
    ⟨0x1ad, 0x1ad, 1, -1⟩, ⟨0x1b0, 0x1b0, 1, -1⟩, ⟨0x1b4, 0x1b6, 2, -1⟩, ⟨0x1b9, 0x1b9, 1, -1⟩,
    ⟨0x1bd, 0x1bd, 1, -1⟩, ⟨0x1bf, 0x1bf, 1, 56⟩, ⟨0x1c5, 0x1c5, 1, -1⟩, ⟨0x1c6, 0x1c6, 1, -2⟩,
    ⟨0x1c8, 0x1c8, 1, -1⟩, ⟨0x1c9, 0x1c9, 1, -2⟩, ⟨0x1cb, 0x1cb, 1, -1⟩, ⟨0x1cc, 0x1cc, 1, -2⟩,
    ⟨0x1ce, 0x1dc, 2, -1⟩, ⟨0x1dd, 0x1dd, 1, -79⟩, ⟨0x1df, 0x1ef, 2, -1⟩, ⟨0x1f2, 0x1f2, 1, -1⟩,
    ⟨0x1f3, 0x1f3, 1, -2⟩, ⟨0x1f5, 0x1f5, 1, -1⟩, ⟨0x1f9, 0x21f, 2, -1⟩, ⟨0x223, 0x233, 2, -1⟩,
    ⟨0x23c, 0x23c, 1, -1⟩, ⟨0x23f, 0x240, 1, 10815⟩, ⟨0x242, 0x242, 1, -1⟩, ⟨0x247, 0x24f, 2, -1⟩,
    ⟨0x250, 0x250, 1, 10783⟩, ⟨0x251, 0x251, 1, 10780⟩, ⟨0x252, 0x252, 1, 10782⟩, ⟨0x253, 0x253, 1, -210⟩,
    ⟨0x254, 0x254, 1, -206⟩, ⟨0x256, 0x257, 1, -205⟩, ⟨0x259, 0x259, 1, -202⟩, ⟨0x25b, 0x25b, 1, -203⟩,
    ⟨0x25c, 0x25c, 1, 42319⟩, ⟨0x260, 0x260, 1, -205⟩, ⟨0x261, 0x261, 1, 42315⟩, ⟨0x263, 0x263, 1, -207⟩,
    ⟨0x264, 0x264, 1, 42343⟩, ⟨0x265, 0x265, 1, 42280⟩, ⟨0x266, 0x266, 1, 42308⟩, ⟨0x268, 0x268, 1, -209⟩,
    ⟨0x269, 0x269, 1, -211⟩, ⟨0x26a, 0x26a, 1, 42308⟩, ⟨0x26b, 0x26b, 1, 10743⟩, ⟨0x26c, 0x26c, 1, 42305⟩,
    ⟨0x26f, 0x26f, 1, -211⟩, ⟨0x271, 0x271, 1, 10749⟩, ⟨0x272, 0x272, 1, -213⟩, ⟨0x275, 0x275, 1, -214⟩,
    ⟨0x27d, 0x27d, 1, 10727⟩, ⟨0x280, 0x280, 1, -218⟩, ⟨0x282, 0x282, 1, 42307⟩, ⟨0x283, 0x283, 1, -218⟩,
    ⟨0x287, 0x287, 1, 42282⟩, ⟨0x288, 0x288, 1, -218⟩, ⟨0x289, 0x289, 1, -69⟩, ⟨0x28a, 0x28b, 1, -217⟩,
    ⟨0x28c, 0x28c, 1, -71⟩, ⟨0x292, 0x292, 1, -219⟩, ⟨0x29d, 0x29d, 1, 42261⟩, ⟨0x29e, 0x29e, 1, 42258⟩,
    ⟨0x345, 0x345, 1, 84⟩, ⟨0x371, 0x373, 2, -1⟩, ⟨0x377, 0x377, 1, -1⟩, ⟨0x37b, 0x37d, 1, 130⟩,
    ⟨0x3ac, 0x3ac, 1, -38⟩, ⟨0x3ad, 0x3af, 1, -37⟩, ⟨0x3b1, 0x3c1, 1, -32⟩, ⟨0x3c2, 0x3c2, 1, -31⟩,
    ⟨0x3c3, 0x3cb, 1, -32⟩, ⟨0x3cc, 0x3cc, 1, -64⟩, ⟨0x3cd, 0x3ce, 1, -63⟩, ⟨0x3d0, 0x3d0, 1, -62⟩,
    ⟨0x3d1, 0x3d1, 1, -57⟩, ⟨0x3d5, 0x3d5, 1, -47⟩, ⟨0x3d6, 0x3d6, 1, -54⟩, ⟨0x3d7, 0x3d7, 1, -8⟩,
    ⟨0x3d9, 0x3ef, 2, -1⟩, ⟨0x3f0, 0x3f0, 1, -86⟩, ⟨0x3f1, 0x3f1, 1, -80⟩, ⟨0x3f2, 0x3f2, 1, 7⟩,
    ⟨0x3f3, 0x3f3, 1, -116⟩, ⟨0x3f5, 0x3f5, 1, -96⟩, ⟨0x3f8, 0x3f8, 1, -1⟩, ⟨0x3fb, 0x3fb, 1, -1⟩,
    ⟨0x430, 0x44f, 1, -32⟩, ⟨0x450, 0x45f, 1, -80⟩, ⟨0x461, 0x481, 2, -1⟩, ⟨0x48b, 0x4bf, 2, -1⟩,
    ⟨0x4c2, 0x4ce, 2, -1⟩, ⟨0x4cf, 0x4cf, 1, -15⟩, ⟨0x4d1, 0x52f, 2, -1⟩, ⟨0x561, 0x586, 1, -48⟩,
    ⟨0x10d0, 0x10fa, 1, 3008⟩, ⟨0x10fd, 0x10ff, 1, 3008⟩, ⟨0x13f8, 0x13fd, 1, -8⟩, ⟨0x1c80, 0x1c80, 1, -6254⟩,
    ⟨0x1c81, 0x1c81, 1, -6253⟩, ⟨0x1c82, 0x1c82, 1, -6244⟩, ⟨0x1c83, 0x1c84, 1, -6242⟩, ⟨0x1c85, 0x1c85, 1, -6243⟩,
    ⟨0x1c86, 0x1c86, 1, -6236⟩, ⟨0x1c87, 0x1c87, 1, -6181⟩, ⟨0x1c88, 0x1c88, 1, 35266⟩, ⟨0x1c8a, 0x1c8a, 1, -1⟩,
    ⟨0x1d79, 0x1d79, 1, 35332⟩, ⟨0x1d7d, 0x1d7d, 1, 3814⟩, ⟨0x1d8e, 0x1d8e, 1, 35384⟩, ⟨0x1e01, 0x1e95, 2, -1⟩,
    ⟨0x1e9b, 0x1e9b, 1, -59⟩, ⟨0x1ea1, 0x1eff, 2, -1⟩, ⟨0x1f00, 0x1f07, 1, 8⟩, ⟨0x1f10, 0x1f15, 1, 8⟩,
    ⟨0x1f20, 0x1f27, 1, 8⟩, ⟨0x1f30, 0x1f37, 1, 8⟩, ⟨0x1f40, 0x1f45, 1, 8⟩, ⟨0x1f51, 0x1f57, 2, 8⟩,
    ⟨0x1f60, 0x1f67, 1, 8⟩, ⟨0x1f70, 0x1f71, 1, 74⟩, ⟨0x1f72, 0x1f75, 1, 86⟩, ⟨0x1f76, 0x1f77, 1, 100⟩,
    ⟨0x1f78, 0x1f79, 1, 128⟩, ⟨0x1f7a, 0x1f7b, 1, 112⟩, ⟨0x1f7c, 0x1f7d, 1, 126⟩, ⟨0x1fb0, 0x1fb1, 1, 8⟩,
    ⟨0x1fbe, 0x1fbe, 1, -7205⟩, ⟨0x1fd0, 0x1fd1, 1, 8⟩, ⟨0x1fe0, 0x1fe1, 1, 8⟩, ⟨0x1fe5, 0x1fe5, 1, 7⟩,
    ⟨0x214e, 0x214e, 1, -28⟩, ⟨0x2170, 0x217f, 1, -16⟩, ⟨0x2184, 0x2184, 1, -1⟩, ⟨0x24d0, 0x24e9, 1, -26⟩,
    ⟨0x2c30, 0x2c5f, 1, -48⟩, ⟨0x2c61, 0x2c61, 1, -1⟩, ⟨0x2c65, 0x2c65, 1, -10795⟩, ⟨0x2c66, 0x2c66, 1, -10792⟩,
    ⟨0x2c68, 0x2c6c, 2, -1⟩, ⟨0x2c73, 0x2c73, 1, -1⟩, ⟨0x2c76, 0x2c76, 1, -1⟩, ⟨0x2c81, 0x2ce3, 2, -1⟩,
    ⟨0x2cec, 0x2cee, 2, -1⟩, ⟨0x2cf3, 0x2cf3, 1, -1⟩, ⟨0x2d00, 0x2d25, 1, -7264⟩, ⟨0x2d27, 0x2d27, 1, -7264⟩,
    ⟨0x2d2d, 0x2d2d, 1, -7264⟩, ⟨0xa641, 0xa66d, 2, -1⟩, ⟨0xa681, 0xa69b, 2, -1⟩, ⟨0xa723, 0xa72f, 2, -1⟩,
    ⟨0xa733, 0xa76f, 2, -1⟩, ⟨0xa77a, 0xa77c, 2, -1⟩, ⟨0xa77f, 0xa787, 2, -1⟩, ⟨0xa78c, 0xa78c, 1, -1⟩,
    ⟨0xa791, 0xa793, 2, -1⟩, ⟨0xa794, 0xa794, 1, 48⟩, ⟨0xa797, 0xa7a9, 2, -1⟩, ⟨0xa7b5, 0xa7c3, 2, -1⟩,
    ⟨0xa7c8, 0xa7ca, 2, -1⟩, ⟨0xa7cd, 0xa7cd, 1, -1⟩, ⟨0xa7d1, 0xa7d1, 1, -1⟩, ⟨0xa7d7, 0xa7db, 2, -1⟩,
    ⟨0xa7f6, 0xa7f6, 1, -1⟩, ⟨0xab53, 0xab53, 1, -928⟩, ⟨0xab70, 0xabbf, 1, -38864⟩, ⟨0xff41, 0xff5a, 1, -32⟩,
    ⟨0x10428, 0x1044f, 1, -40⟩, ⟨0x104d8, 0x104fb, 1, -40⟩, ⟨0x10597, 0x105bb, 2, -39⟩, ⟨0x10598, 0x105a0, 2, -39⟩,
    ⟨0x105a4, 0x105b0, 2, -39⟩, ⟨0x105b4, 0x105b8, 2, -39⟩, ⟨0x105bc, 0x105bc, 1, -39⟩, ⟨0x10cc0, 0x10cf2, 1, -64⟩,
    ⟨0x10d70, 0x10d85, 1, -32⟩, ⟨0x118c0, 0x118df, 1, -32⟩, ⟨0x16e60, 0x16e7f, 1, -32⟩, ⟨0x1e922, 0x1e943, 1, -34⟩
  ]

/-- The characters whose upper-case form has several characters. -/
def caseExpansions : List (Nat × String) :=
  [
    (0xdf, "\u0053\u0053"), (0x149, "\u02bc\u004e"), (0x1f0, "\u004a\u030c"), (0x390, "\u0399\u0308\u0301"),
    (0x3b0, "\u03a5\u0308\u0301"), (0x587, "\u0535\u0552"), (0x1e96, "\u0048\u0331"), (0x1e97, "\u0054\u0308"),
    (0x1e98, "\u0057\u030a"), (0x1e99, "\u0059\u030a"), (0x1e9a, "\u0041\u02be"), (0x1f50, "\u03a5\u0313"),
    (0x1f52, "\u03a5\u0313\u0300"), (0x1f54, "\u03a5\u0313\u0301"), (0x1f56, "\u03a5\u0313\u0342"), (0x1f80, "\u1f08\u0399"),
    (0x1f81, "\u1f09\u0399"), (0x1f82, "\u1f0a\u0399"), (0x1f83, "\u1f0b\u0399"), (0x1f84, "\u1f0c\u0399"),
    (0x1f85, "\u1f0d\u0399"), (0x1f86, "\u1f0e\u0399"), (0x1f87, "\u1f0f\u0399"), (0x1f88, "\u1f08\u0399"),
    (0x1f89, "\u1f09\u0399"), (0x1f8a, "\u1f0a\u0399"), (0x1f8b, "\u1f0b\u0399"), (0x1f8c, "\u1f0c\u0399"),
    (0x1f8d, "\u1f0d\u0399"), (0x1f8e, "\u1f0e\u0399"), (0x1f8f, "\u1f0f\u0399"), (0x1f90, "\u1f28\u0399"),
    (0x1f91, "\u1f29\u0399"), (0x1f92, "\u1f2a\u0399"), (0x1f93, "\u1f2b\u0399"), (0x1f94, "\u1f2c\u0399"),
    (0x1f95, "\u1f2d\u0399"), (0x1f96, "\u1f2e\u0399"), (0x1f97, "\u1f2f\u0399"), (0x1f98, "\u1f28\u0399"),
    (0x1f99, "\u1f29\u0399"), (0x1f9a, "\u1f2a\u0399"), (0x1f9b, "\u1f2b\u0399"), (0x1f9c, "\u1f2c\u0399"),
    (0x1f9d, "\u1f2d\u0399"), (0x1f9e, "\u1f2e\u0399"), (0x1f9f, "\u1f2f\u0399"), (0x1fa0, "\u1f68\u0399"),
    (0x1fa1, "\u1f69\u0399"), (0x1fa2, "\u1f6a\u0399"), (0x1fa3, "\u1f6b\u0399"), (0x1fa4, "\u1f6c\u0399"),
    (0x1fa5, "\u1f6d\u0399"), (0x1fa6, "\u1f6e\u0399"), (0x1fa7, "\u1f6f\u0399"), (0x1fa8, "\u1f68\u0399"),
    (0x1fa9, "\u1f69\u0399"), (0x1faa, "\u1f6a\u0399"), (0x1fab, "\u1f6b\u0399"), (0x1fac, "\u1f6c\u0399"),
    (0x1fad, "\u1f6d\u0399"), (0x1fae, "\u1f6e\u0399"), (0x1faf, "\u1f6f\u0399"), (0x1fb2, "\u1fba\u0399"),
    (0x1fb3, "\u0391\u0399"), (0x1fb4, "\u0386\u0399"), (0x1fb6, "\u0391\u0342"), (0x1fb7, "\u0391\u0342\u0399"),
    (0x1fbc, "\u0391\u0399"), (0x1fc2, "\u1fca\u0399"), (0x1fc3, "\u0397\u0399"), (0x1fc4, "\u0389\u0399"),
    (0x1fc6, "\u0397\u0342"), (0x1fc7, "\u0397\u0342\u0399"), (0x1fcc, "\u0397\u0399"), (0x1fd2, "\u0399\u0308\u0300"),
    (0x1fd3, "\u0399\u0308\u0301"), (0x1fd6, "\u0399\u0342"), (0x1fd7, "\u0399\u0308\u0342"), (0x1fe2, "\u03a5\u0308\u0300"),
    (0x1fe3, "\u03a5\u0308\u0301"), (0x1fe4, "\u03a1\u0313"), (0x1fe6, "\u03a5\u0342"), (0x1fe7, "\u03a5\u0308\u0342"),
    (0x1ff2, "\u1ffa\u0399"), (0x1ff3, "\u03a9\u0399"), (0x1ff4, "\u038f\u0399"), (0x1ff6, "\u03a9\u0342"),
    (0x1ff7, "\u03a9\u0342\u0399"), (0x1ffc, "\u03a9\u0399"), (0xfb00, "\u0046\u0046"), (0xfb01, "\u0046\u0049"),
    (0xfb02, "\u0046\u004c"), (0xfb03, "\u0046\u0046\u0049"), (0xfb04, "\u0046\u0046\u004c"), (0xfb05, "\u0053\u0054"),
    (0xfb06, "\u0053\u0054"), (0xfb13, "\u0544\u0546"), (0xfb14, "\u0544\u0535"), (0xfb15, "\u0544\u053b"),
    (0xfb16, "\u054e\u0546"), (0xfb17, "\u0544\u053d")
  ]

/-! ## The mapping -/

/-- Whether the run lists the code point `n`. -/
def CaseRun.contains (r : CaseRun) (n : Nat) : Bool :=
  r.first ≤ n && n ≤ r.last && (n - r.first) % r.stride == 0

/-- The full upper-case form of a character. -/
def upperChar (c : Char) : String :=
  match caseExpansions.lookup c.toNat with
  | some s => s
  | none =>
    match caseRuns.find? (·.contains c.toNat) with
    | some r => String.singleton (Char.ofNat (c.toNat + r.delta).toNat)
    | none => String.singleton c

/-- The text with its first character in upper case; the empty text is left alone. -/
def capitalize (s : String) : String :=
  match s.toList with
  | [] => ""
  | c :: cs => upperChar c ++ String.ofList cs

/-- The empty text stays empty. -/
theorem capitalize_empty : capitalize "" = "" := by
  simp [capitalize]

end TriggerPlan.Text
