import ShaderTools.Text.Basic

/-!
Why an archive cannot be read. An archive may be no archive at all, may use a feature that is not
supported, or may end too early.
-/

namespace ShaderTools

/-- Why an archive, or one of its entries, cannot be read. -/
inductive Archive.Error where
  /-- No end record leads to a readable directory. -/
  | endNotFound
  /-- The bytes end inside a record. -/
  | cutShort
  /-- The comment of the end record is longer than what follows it. -/
  | commentCutShort
  /-- The end record places the directory behind itself. -/
  | directoryAfterEnd
  /-- There is no directory header between the place the end record gives and the end record. -/
  | directoryNotFound
  /-- A locator places the wide end record behind itself. -/
  | wideEndAfterLocator
  /-- The archive is spread over several disks. -/
  | severalDisks
  /-- There is no wide end record between the place the locator gives and the locator. -/
  | wideEndNotFound
  /-- The wide end record is shorter than its numbers. -/
  | wideEndTooShort
  /-- The wide end record reaches into the locator. -/
  | wideEndTooLong
  /-- The wide end record places the directory on another disk than the locator. -/
  | wideEndOnOtherDisk
  /-- The wide end record does not reach up to the locator. -/
  | wideEndBeforeGap
  /-- The directory has more entries than fit before the wide end record. -/
  | tooManyEntries
  /-- An entry's own header is not where the directory says. -/
  | headerNotFound
  /-- The entry is encrypted. -/
  | encrypted
  /-- An extra field of the entry tells of a cipher, for which there is no password. -/
  | wrongPassword
  /-- The entry is compressed by a method that has no decoder. -/
  | unknownMethod
  deriving DecidableEq, Repr

def Archive.Error.message : Archive.Error → Text
  | endNotFound => "invalid Zip archive: Could not find EOCD".toList
  | cutShort => "i/o error".toList
  | commentCutShort => "invalid Zip archive: EOCD comment exceeds file boundary".toList
  | directoryAfterEnd => "invalid Zip archive: Invalid CDFH offset in EOCD".toList
  | directoryNotFound => "invalid Zip archive: No CDFH found".toList
  | wideEndAfterLocator => "invalid Zip archive: Invalid EOCD64 Locator CD offset".toList
  | severalDisks => "invalid Zip archive: Multi-disk ZIP files are not supported".toList
  | wideEndNotFound => "invalid Zip archive: Could not find EOCD64".toList
  | wideEndTooShort => "invalid Zip archive: Low EOCD64 record size".toList
  | wideEndTooLong => "invalid Zip archive: EOCD64 extends beyond EOCD64 locator".toList
  | wideEndOnOtherDisk =>
    "invalid Zip archive: Invalid EOCD64: inconsistency with Locator data".toList
  | wideEndBeforeGap => "invalid Zip archive: Invalid EOCD64: inconsistent length".toList
  | tooManyEntries => "invalid Zip archive: Invalid EOCD64: inconsistent number of files".toList
  | headerNotFound => "invalid Zip archive: Invalid local file header".toList
  | encrypted => "unsupported Zip archive: Password required to decrypt file".toList
  | wrongPassword => "provided password is incorrect".toList
  | unknownMethod => "unsupported Zip archive: Compression method not supported".toList

end ShaderTools
