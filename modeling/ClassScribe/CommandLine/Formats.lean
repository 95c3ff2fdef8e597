import ClassScribe.CommandLine.Run
import ClassScribe.Json.Rereading
import ClassScribe.Schema.JsonFormat
import ClassScribe.Schema.YamlFormat
import ClassScribe.Settings.Formats

/-! # Formats of documents

The readers that the program runs with. -/

namespace ClassScribe.CommandLine

/-- The readers of all formats. -/
def Readers.standard : Readers where
  settings := SettingsFormat.read?
  schemas
    | .json => Json.codec.reader
    | .yaml => Yaml.reader

end ClassScribe.CommandLine
