import Libdlna.Model.Media

set_option autoImplicit false

namespace Libdlna

structure ImageProfileMapping where
  profile : StaticProfile
  maxWidth : Int32
  maxHeight : Int32

def imageProfileFind (mapping : List ImageProfileMapping) (vc : AvCodecContext) :
    Option StaticProfile :=
  (mapping.find? fun row => vc.width ≤ row.maxWidth ∧ vc.height ≤ row.maxHeight).map
    ImageProfileMapping.profile

namespace ImageJpeg

def jpegSm : StaticProfile := ⟨spelledText "JPEG_SM", some mimeImageJpeg⟩
def jpegMed : StaticProfile := ⟨spelledText "JPEG_MED", some mimeImageJpeg⟩
def jpegLrg : StaticProfile := ⟨spelledText "JPEG_LRG", some mimeImageJpeg⟩
def jpegTn : StaticProfile := ⟨spelledText "JPEG_TN", some mimeImageJpeg⟩
def jpegSmIco : StaticProfile := ⟨spelledText "JPEG_SM_ICO", some mimeImageJpeg⟩
def jpegLrgIco : StaticProfile := ⟨spelledText "JPEG_LRG_ICO", some mimeImageJpeg⟩

end ImageJpeg

open ImageJpeg in
def jpegProfilesMapping : List ImageProfileMapping :=
  [⟨jpegSmIco, 48, 48⟩,
    ⟨jpegLrgIco, 120, 120⟩,
    ⟨jpegTn, 160, 160⟩,
    ⟨jpegSm, 640, 480⟩,
    ⟨jpegMed, 1024, 768⟩,
    ⟨jpegLrg, 4096, 4096⟩]

def probeJpeg (ctx : AvFormatContext) (codecs : AvCodecs) :
    Except Fault (Option StaticProfile) := do
  let isImage ← streamCtxIsImage ctx codecs
  if !isImage then .ok none
  else
    match codecs.video with
    | none => .error .nullDeref
    | some vs =>
        if vs.codec.codecId ∉ [.mjpeg, .mjpegb, .ljpeg, .jpegls] then .ok none
        else .ok (imageProfileFind jpegProfilesMapping vs.codec)

open ImageJpeg in
def dlnaProfilesSupportedImageJpeg : List StaticProfile :=
  [jpegSm, jpegMed, jpegLrg, jpegTn, jpegSmIco, jpegLrgIco]

def dlnaProfileImageJpeg : RegisteredProfile where
  id := .imageJpeg
  mediaClass := .image
  extensions := "jpg,jpe,jpeg".toList
  profiles := dlnaProfilesSupportedImageJpeg
  probe := readOnlyProbe probeJpeg

namespace ImagePng

def pngTn : StaticProfile := ⟨spelledText "PNG_TN", some mimeImagePng⟩
def pngSmIco : StaticProfile := ⟨spelledText "PNG_SM_ICO", some mimeImagePng⟩
def pngLrgIco : StaticProfile := ⟨spelledText "PNG_LRG_ICO", some mimeImagePng⟩
def pngLrg : StaticProfile := ⟨spelledText "PNG_LRG", some mimeImagePng⟩

end ImagePng

open ImagePng in
def pngProfilesMapping : List ImageProfileMapping :=
  [⟨pngSmIco, 48, 48⟩,
    ⟨pngLrgIco, 120, 120⟩,
    ⟨pngTn, 160, 160⟩,
    ⟨pngLrg, 4096, 4096⟩]

def probePng (ctx : AvFormatContext) (codecs : AvCodecs) :
    Except Fault (Option StaticProfile) := do
  let isImage ← streamCtxIsImage ctx codecs
  if !isImage then .ok none
  else
    match codecs.video with
    | none => .error .nullDeref
    | some vs =>
        if vs.codec.codecId ≠ .png then .ok none
        else .ok (imageProfileFind pngProfilesMapping vs.codec)

open ImagePng in
def dlnaProfilesSupportedImagePng : List StaticProfile :=
  [pngTn, pngSmIco, pngLrgIco, pngLrg]

def dlnaProfileImagePng : RegisteredProfile where
  id := .imagePng
  mediaClass := .image
  extensions := "png".toList
  profiles := dlnaProfilesSupportedImagePng
  probe := readOnlyProbe probePng

end Libdlna
