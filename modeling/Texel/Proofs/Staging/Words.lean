import Texel.Proofs.Session.Limits
import Texel.Proofs.Staging
import Texel.Proofs.Upload.Words

namespace Texel

namespace StagingTexture

/-- `pitch?` in 32 bits. -/
def pitchWord? (width : Nat) (format : NativeFormat) (alignment : Nat) : Option Nat := do
  let rowBytes ← fit? 32 (width * format.bytesPerPixel)
  alignUp? rowBytes alignment

/-- The bytes of memory, in 64 bits. -/
def memorySize? (staging : StagingTexture) : Option Nat :=
  fit? 64 (staging.pitch * staging.height)

/-- `pixelOffset`, with the offset within the row in 32 bits and the rest in 64 bits. -/
def pixelOffset? (staging : StagingTexture) (x y : Nat) : Option Nat := do
  let rows ← fit? 64 (y * staging.pitch)
  let column ← fit? 32 (x * staging.format.bytesPerPixel)
  fit? 64 (rows + column)

/-- `writeLayout` in fixed widths. The layout is first computed for rows without padding, which
adds one to their bytes on the way, and then given the pitch of the staging texture. -/
def writeLayoutWord? (staging : StagingTexture) (region : Region) (stride : Nat) :
    Option UploadLayout := do
  let rowBytes ← fit? 32 (region.width * staging.format.bytesPerPixel)
  let unpaddedPitch ← alignPlain? rowBytes 1
  let unpadded : UploadLayout := ⟨region, stride, rowBytes, unpaddedPitch⟩
  let _ ← unpadded.uploadSize?
  some { unpadded with uploadPitch := staging.pitch }

/-- Where the bytes of one row of a write end, if the write starts at the byte `start`. -/
def rowEnd? (staging : StagingTexture) (layout : UploadLayout) (start row : Nat) : Option Nat := do
  let offset ← fit? 64 (row * staging.pitch)
  let target ← fit? 64 (start + offset)
  fit? 64 (target + layout.rowBytes)

/-- The pitch and the size of a staging texture are computed exactly. -/
structure InWords (staging : StagingTexture) (alignment : Nat) : Prop where
  pitch_eq : pitchWord? staging.width staging.format alignment = some staging.pitch
  pitch_exact : staging.pitch =
    alignUp (staging.width * staging.format.bytesPerPixel) alignment
  size_eq : staging.memorySize? = some (staging.pitch * staging.height)

/-- What a write of a rectangle computes is exact, on both its paths. -/
structure WritesInWords (staging : StagingTexture) (region : Region) (stride : Nat) : Prop where
  layout_eq : staging.writeLayoutWord? region stride = some (staging.writeLayout region stride)
  unpadded_eq : alignPlain? (region.width * staging.format.bytesPerPixel) 1 =
    some (region.width * staging.format.bytesPerPixel)
  source_eq : (staging.writeLayout region stride).requiredSource? =
    some (staging.writeLayout region stride).requiredSource
  start_eq : staging.pixelOffset? region.x region.y = some (staging.pixelOffset region.x region.y)
  block_eq : fit? 64 (stride * region.height) = some (stride * region.height)
  row_eq : ∀ row < region.height,
    staging.rowEnd? (staging.writeLayout region stride) (staging.pixelOffset region.x region.y)
        row =
      some (staging.pixelOffset region.x (region.y + row) +
        region.width * staging.format.bytesPerPixel)

/-- Computed in 32 bits, the pitch of a row is what `pitch?` says, or none where it says none. -/
theorem pitchWord?_eq {width alignment : Nat} {format : NativeFormat} :
    pitchWord? width format alignment = pitch? width format alignment := by
  unfold pitchWord? pitch?
  rw [fit?_word_eq]
  by_cases hrow : width * format.bytesPerPixel ≤ maxWord
  · rw [if_pos hrow, if_neg (Nat.not_lt_of_le hrow), Option.bind_eq_bind, Option.bind_some]
  · rw [if_neg hrow, if_pos (Nat.lt_of_not_le hrow)]
    rfl

/-- What the checks of a new staging texture leave: rows that fit a pitch of 32 bits, and no more of
them than 32 bits count. -/
structure Laid (staging : StagingTexture) : Prop where
  row : staging.width * staging.format.bytesPerPixel ≤ staging.pitch
  pitch : staging.pitch ≤ maxWord
  height : staging.height ≤ maxWord

/-- A staging texture with the pitch of its format is laid out in words. -/
theorem laid_of_pitch? {staging : StagingTexture} {alignment : Nat}
    (hpower : alignment.isPowerOfTwo)
    (hpitch : pitch? staging.width staging.format alignment = some staging.pitch)
    (hheight : staging.height ≤ maxWord) : staging.Laid := by
  obtain ⟨hrow, hword⟩ := bounds_of_pitch? hpower hpitch
  exact ⟨hrow, hword, hheight⟩

section Laid

variable {staging : StagingTexture} {region : Region} {stride : Nat} (h : staging.Laid)
include h

/-- Every step towards the pitch and the size of a staging texture fits its word. -/
theorem Laid.inWords {alignment : Nat} (hpower : alignment.isPowerOfTwo)
    (hpitch : pitch? staging.width staging.format alignment = some staging.pitch) :
    staging.InWords alignment :=
  ⟨pitchWord?_eq.trans hpitch, pitch?_eq_some hpower hpitch,
    fit?_eq_some (mul_lt_two_pow h.pitch h.height)⟩

/-- Pixels up to the end of a row and up to the end of the rows have offsets in 64 bits. -/
theorem Laid.pixelOffset?_eq_some {x y : Nat} (hx : x ≤ staging.width) (hy : y ≤ staging.height) :
    staging.pixelOffset? x y = some (staging.pixelOffset x y) := by
  have hcolumn : x * staging.format.bytesPerPixel ≤ maxWord :=
    Nat.le_trans (Nat.mul_le_mul_right _ hx) (Nat.le_trans h.row h.pitch)
  have hrows : y ≤ maxWord := Nat.le_trans hy h.height
  simp only [pixelOffset?, Option.bind_eq_bind, Option.bind_some, fit?_word hcolumn,
    fit?_eq_some (mul_lt_two_pow hrows h.pitch),
    fit?_eq_some (mul_add_lt_two_pow hrows h.pitch hcolumn), pixelOffset]

/-- Rows of a rectangle that fits end within 64 bits. -/
theorem Laid.rowEnd?_eq_some {row : Nat}
    (hfits : region.fitsWithin staging.width staging.height = true) (hrow : row < region.height) :
    staging.rowEnd? (staging.writeLayout region stride) (staging.pixelOffset region.x region.y)
        row =
      some (staging.pixelOffset region.x (region.y + row) +
        region.width * staging.format.bytesPerPixel) := by
  have hend : staging.pixelOffset region.x (region.y + row) +
      region.width * staging.format.bytesPerPixel < 2 ^ 64 :=
    Nat.lt_of_le_of_lt (block_end_le h.row hfits hrow) (mul_lt_two_pow h.pitch h.height)
  have hoffset := staging.pixelOffset_add region.x region.y row
  have hrows : row * staging.pitch < 2 ^ 64 := by omega
  have htarget : staging.pixelOffset region.x (region.y + row) < 2 ^ 64 := by omega
  simp only [rowEnd?, writeLayout, Option.bind_eq_bind, Option.bind_some,
    fit?_eq_some hrows, hoffset, fit?_eq_some htarget, fit?_eq_some hend]

/-- A write of a rectangle that fits computes exact numbers if its rows leave room for one byte
more. -/
theorem Laid.writesInWords (hfits : region.fitsWithin staging.width staging.height = true)
    (hstride : stride ≤ maxWord)
    (hrow : region.width * staging.format.bytesPerPixel < maxWord) :
    staging.WritesInWords region stride := by
  obtain ⟨hcolumns, hrows⟩ := Region.fitsWithin_iff.mp hfits
  have hbytes := Nat.le_of_lt hrow
  have hheight : region.height ≤ maxWord :=
    Nat.le_trans (by omega : region.height ≤ staging.height) h.height
  have hunpadded : alignPlain? (region.width * staging.format.bytesPerPixel) 1 =
      some (region.width * staging.format.bytesPerPixel) :=
    (alignPlain?_eq_some_iff ⟨0, rfl⟩).mpr ⟨hrow, alignUp_one _⟩
  refine ⟨?_, hunpadded, UploadLayout.requiredSource?_eq_some hheight hstride hbytes,
    h.pixelOffset?_eq_some (by omega) (by omega), fit?_eq_some (mul_lt_two_pow hstride hheight),
    fun row hrow => h.rowEnd?_eq_some hfits hrow⟩
  have hsize : fit? 64 (region.width * staging.format.bytesPerPixel * region.height) = some _ :=
    fit?_eq_some (mul_lt_two_pow hbytes hheight)
  simp only [writeLayoutWord?, Option.bind_eq_bind, Option.bind_some, fit?_word hbytes, hunpadded,
    UploadLayout.uploadSize?, hsize, writeLayout]

omit h in
/-- Rows that leave no room for one byte more have no layout to be written with. -/
theorem writeLayoutWord?_eq_none (region : Region) (stride : Nat)
    (hrow : maxWord ≤ region.width * staging.format.bytesPerPixel) :
    staging.writeLayoutWord? region stride = none := by
  have hsum : alignPlain? (region.width * staging.format.bytesPerPixel) 1 = none :=
    if_neg (Nat.not_le_of_lt (Nat.lt_succ_of_le hrow))
  unfold writeLayoutWord?
  rw [fit?_word_eq]
  split
  · simp only [Option.bind_eq_bind, Option.bind_some, hsum, Option.bind_none]
  · rfl

/-- Whether all numbers of a write are computed exactly depends on its rows only. -/
theorem Laid.writesInWords_iff (hfits : region.fitsWithin staging.width staging.height = true)
    (hstride : stride ≤ maxWord) :
    staging.WritesInWords region stride ↔
      region.width * staging.format.bytesPerPixel ≠ maxWord := by
  constructor
  · intro hwords hfull
    have hlayout := hwords.layout_eq
    rw [writeLayoutWord?_eq_none region stride (Nat.le_of_eq hfull.symm)] at hlayout
    cases hlayout
  · intro hother
    have hblock := Nat.le_trans (block_le_pitch h.row hfits) h.pitch
    exact h.writesInWords hfits hstride (by omega)

end Laid

section Created

variable {D : Type} [Device D] {width height : Nat} {format : NativeFormat} {writable : Bool}

/-- A staging texture has the size, the format and the pitch it was asked for. -/
theorem meets_createWithPitch (width height : Nat) (format : NativeFormat) (pitch : Nat)
    (writable : Bool) :
    (createWithPitch width height format pitch writable :
      Attempt TextureError (Context D) StagingTexture).Meets (fun _ => True)
      (fun staging _ => ∃ buffer, staging = ⟨buffer, width, height, format, pitch, writable⟩)
      fun _ _ => True := by
  refine .answer .of_const (fun buffer => ?_) fun error => ?_
  · exact .bind .of_const fun _ => .after_log (.pure fun _ _ => ⟨buffer, rfl⟩)
  · exact .after_log (.refuse fun _ _ => trivial)

/-- On any device, a staging texture that is created is as high as asked for, and its rows have a
pitch. -/
theorem meets_create_laid (context : Context D) :
    (create width height format writable :
      Attempt TextureError (Context D) StagingTexture).Meets (fun now => now = context)
      (fun staging _ => staging.height = height ∧
        pitch? staging.width staging.format context.config.pitchAlignment = some staging.pitch)
      fun _ _ => True := by
  apply Attempt.Meets.get_of_eq
  split
  · exact .after_log (.refuse fun _ _ => trivial)
  · split
    · exact .after_log (.refuse fun _ _ => trivial)
    · next pitch hpitch =>
      refine .mono (meets_createWithPitch width height format pitch writable)
        (fun _ _ => trivial) ?_ fun _ _ h => h
      rintro _ _ ⟨buffer, rfl⟩
      exact ⟨rfl, hpitch⟩

end Created

end StagingTexture

namespace Texture

section Limited

variable {texture : Texture} {region : Region} {sourcePitch pitchAlignment : Nat}
  (hwidth : texture.width ≤ Dimension.maxWidth) (hpower : pitchAlignment.isPowerOfTwo)
  (hword : pitchAlignment ≤ maxWord)
include hwidth hpower hword

/-- The layout of an upload to a texture that is no higher than textures may be is computed
exactly. -/
theorem inWords_of_uploadLayout {layout : UploadLayout}
    (hheight : texture.height ≤ Dimension.maxHeight) (hsource : sourcePitch ≤ maxWord)
    (hlayout : texture.uploadLayout region sourcePitch pitchAlignment = .ok layout) :
    layout.InWords texture.nativeFormat.bytesPerPixel pitchAlignment := by
  obtain ⟨-, -, -, hfits, -, -, rfl⟩ := uploadLayout_eq_ok hpower hlayout
  obtain ⟨hcolumns, hrows⟩ := Region.fitsWithin_iff.mp hfits
  have hrow := @StagingTexture.row_add_le_maxWord region.width pitchAlignment texture.nativeFormat
    (by omega) hpower hword
  have hregion : region.height ≤ maxWord := by
    unfold Dimension.maxHeight at hheight
    unfold maxWord
    omega
  exact UploadLayout.inWords_ofRegion hpower hrow hregion hsource

end Limited

end Texture

/-- With a configuration that is valid: uploads to a texture that has passed the checks of its
dimensions never end the program in the arithmetic of their layout, which is exact, with its row,
its pitch, its size and the source bytes it asks for; and if one goes through the stream buffer its
size is exact in 32 bits as well. So are the pitch and the size of every staging texture that is
created, on any device, and whatever its memory holds afterwards the offsets of a copy of a
rectangle that fits. A write of one computes exact numbers unless its rows have 2 ^ 32 - 1 bytes;
then there is no layout to write them with. -/
theorem upload_steps_fit_words {config : Config} (hvalid : config.validate = .ok ())
    (hword : config.pitchAlignment ≤ maxWord) :
    (∀ {σ : Type} (state : σ) (desc : TextureDesc) (texture : Texture) (region : Region)
        (sourcePitch : Nat),
      ((Dimension.checkAll (Dimension.ofDesc desc) : Attempt TextureError σ Unit).run
        state).value = .ok () →
      texture.width = desc.width → texture.height = desc.height → sourcePitch ≤ maxWord →
      texture.uploadLayout region sourcePitch config.pitchAlignment ≠ .error .abort ∧
      ∀ layout, texture.uploadLayout region sourcePitch config.pitchAlignment = .ok layout →
        layout.InWords texture.nativeFormat.bytesPerPixel config.pitchAlignment) ∧
    ∀ {D : Type} [Device D] (context : Context D) (width height : Nat) (format : NativeFormat)
        (writable : Bool) (created : StagingTexture) (memory : Memory),
      context.config = config → height ≤ maxWord →
      ((StagingTexture.create width height format writable).run context).value = .ok created →
      let staging : StagingTexture := { created with buffer := { created.buffer with memory } }
      staging.InWords config.pitchAlignment ∧
      ∀ region : Region, region.fitsWithin staging.width staging.height = true →
        (∀ stride ≤ maxWord, staging.WritesInWords region stride ↔
          region.width * staging.format.bytesPerPixel ≠ maxWord) ∧
        (region.width * staging.format.bytesPerPixel = maxWord →
          ∀ stride, staging.writeLayoutWord? region stride = none) ∧
        staging.pixelOffset? region.x region.y = some (staging.pixelOffset region.x region.y) := by
  obtain ⟨-, hpower, -⟩ := Config.validate_eq_ok_iff.mp hvalid
  constructor
  · intro σ state desc texture region sourcePitch hchecked hwidth hheight hsource
    have haccepted : Dimension.Accepted desc :=
      (((Dimension.meets_checkAll _).of_run trivial).1 () hchecked).2
    have hcolumns : desc.width ≤ Dimension.maxWidth := haccepted _ (.head _)
    have hrows : desc.height ≤ Dimension.maxHeight := haccepted _ (.tail _ (.head _))
    rw [← hwidth] at hcolumns
    rw [← hheight] at hrows
    refine ⟨Texture.uploadLayout_ne_abort hcolumns hpower hword, fun layout hlayout => ?_⟩
    exact Texture.inWords_of_uploadLayout hcolumns hpower hword hrows hsource hlayout
  · intro D _ context width height format writable created memory hconfig hheight hcreate staging
    obtain ⟨hrows, hpitch⟩ :=
      ((StagingTexture.meets_create_laid context).of_run rfl).1 created hcreate
    rw [hconfig] at hpitch
    have hlaid : staging.Laid :=
      StagingTexture.laid_of_pitch? hpower hpitch (Nat.le_trans (Nat.le_of_eq hrows) hheight)
    refine ⟨hlaid.inWords hpower hpitch, fun region hfits => ⟨fun stride hstride =>
      hlaid.writesInWords_iff hfits hstride, fun hfull stride => ?_, ?_⟩⟩
    · exact StagingTexture.writeLayoutWord?_eq_none region stride (Nat.le_of_eq hfull.symm)
    · obtain ⟨hcolumns, hbelow⟩ := Region.fitsWithin_iff.mp hfits
      exact hlaid.pixelOffset?_eq_some (by omega) (by omega)

/-- At the largest alignment, the largest texture is laid out exactly, and so are the offsets of the
last pixel of as many staged rows as there can be. -/
theorem upload_steps_fit_words_largest :
    let config : Config := { pitchAlignment := 2147483648 }
    let region : Region := ⟨0, 0, 65535, 65535⟩
    let buffer : HostBuffer := ⟨⟨2⟩, .zeroed (2147483648 * maxWord)⟩
    let staging : StagingTexture :=
      ⟨buffer, 536870912, maxWord, .rgba8Unorm, 2147483648, true⟩
    let last : Region := ⟨536870911, 4294967294, 1, 1⟩
    UploadLayout.InWords ⟨region, maxWord, 262140, 2147483648⟩ 4 config.pitchAlignment ∧
      staging.InWords config.pitchAlignment ∧ staging.WritesInWords last maxWord ∧
      staging.pixelOffset? 536870911 4294967294 = some 9223372034707292156 := by
  intro config region buffer staging last
  have hvalid : config.validate = .ok () := Config.validate_eq_ok_iff.mpr (by decide)
  obtain ⟨hlayouts, hstagings⟩ := @upload_steps_fit_words config hvalid (by decide)
  let desc : TextureDesc := { width := 65535, height := 65535, layers := 1, levels := 1,
                              samples := 1, format := .rgba8Unorm }
  obtain ⟨-, hexact⟩ := hlayouts () desc (.ofResource ⟨1⟩ {} desc .common) region maxWord
    rfl rfl rfl (by decide)
  have hlayout := hexact ⟨region, maxWord, 262140, 2147483648⟩ (by decide +kernel)
  obtain ⟨hstaging, hoffsets⟩ := hstagings (Session.opening config).context 536870912 maxWord
    .rgba8Unorm true staging (.zeroed (2147483648 * maxWord)) rfl (Nat.le_refl _)
    (by decide +kernel)
  obtain ⟨hwrites, -, hstart⟩ := hoffsets last (by decide)
  exact ⟨hlayout, hstaging, (hwrites maxWord (Nat.le_refl _)).mpr (by decide),
    hstart.trans (by decide +kernel)⟩

/-- A staging texture of one row of 2 ^ 32 - 1 pixels is created at a pitch alignment of one byte.
The sum on the way to the pitch of its unpadded row does not fit 32 bits, so no write of the row has
a layout. -/
theorem widest_row_leaves_words :
    let config : Config := { pitchAlignment := 1 }
    let region : Region := ⟨0, 0, maxWord, 1⟩
    config.validate = .ok () ∧ ∃ created : StagingTexture,
      ((StagingTexture.create maxWord 1 .r8Unorm true).run
        (Session.opening config).context).value = .ok created ∧
      region.fitsWithin created.width created.height = true ∧
      region.width * created.format.bytesPerPixel = maxWord ∧
      alignPlain? (region.width * created.format.bytesPerPixel) 1 = none ∧
      ∀ stride, ¬ created.WritesInWords region stride := by
  intro config region
  let created : StagingTexture :=
    ⟨⟨⟨2⟩, .zeroed maxWord⟩, maxWord, 1, .r8Unorm, maxWord, true⟩
  have hcreate : ((StagingTexture.create maxWord 1 .r8Unorm true).run
      (Session.opening config).context).value = .ok created := by decide +kernel
  refine ⟨Config.validate_eq_ok_iff.mpr (by decide), created, hcreate, by decide, by decide,
    by decide, fun stride hwords => ?_⟩
  have hnone := @StagingTexture.writeLayoutWord?_eq_none created region stride (by decide)
  cases hnone.symm.trans hwords.layout_eq

end Texel
