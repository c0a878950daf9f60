import AgentGateway.Text.Reflection.Kind

/-! The kinds of values that a text leads to, with what they tell about themselves.

A text leads to its kind and to its operations; these are of kinds of their own, and so
are the places where kinds keep their entries. -/
namespace AgentGateway.Text.Reflection

/-- Texts. -/
def textKind : Kind where
  name := "str"
  size := 80
  itemSize := 0
  flags := 273159424
  referencePlace := 0
  entriesPlace := 0
  signature := none
  entries := [
    ⟨"__new__", .free, some "Create and return a new object.  See help(type) for accurate signature.", some "($type, *args, **kwargs)"⟩,
    ⟨"__repr__", .slot, some "Return repr(self).", some "($self, /)"⟩,
    ⟨"__hash__", .slot, some "Return hash(self).", some "($self, /)"⟩,
    ⟨"__str__", .slot, some "Return str(self).", some "($self, /)"⟩,
    ⟨"__getattribute__", .slot, some "Return getattr(self, name).", some "($self, name, /)"⟩,
    ⟨"__lt__", .slot, some "Return self<value.", some "($self, value, /)"⟩,
    ⟨"__le__", .slot, some "Return self<=value.", some "($self, value, /)"⟩,
    ⟨"__eq__", .slot, some "Return self==value.", some "($self, value, /)"⟩,
    ⟨"__ne__", .slot, some "Return self!=value.", some "($self, value, /)"⟩,
    ⟨"__gt__", .slot, some "Return self>value.", some "($self, value, /)"⟩,
    ⟨"__ge__", .slot, some "Return self>=value.", some "($self, value, /)"⟩,
    ⟨"__iter__", .slot, some "Implement iter(self).", some "($self, /)"⟩,
    ⟨"__mod__", .slot, some "Return self%value.", some "($self, value, /)"⟩,
    ⟨"__rmod__", .slot, some "Return value%self.", some "($self, value, /)"⟩,
    ⟨"__len__", .slot, some "Return len(self).", some "($self, /)"⟩,
    ⟨"__getitem__", .slot, some "Return self[key].", some "($self, key, /)"⟩,
    ⟨"__add__", .slot, some "Return self+value.", some "($self, value, /)"⟩,
    ⟨"__mul__", .slot, some "Return self*value.", some "($self, value, /)"⟩,
    ⟨"__rmul__", .slot, some "Return value*self.", some "($self, value, /)"⟩,
    ⟨"__contains__", .slot, some "Return key in self.", some "($self, key, /)"⟩,
    ⟨"encode", .method, some "Encode the string using the codec registered for encoding.\n\n  encoding\n    The encoding in which to encode the string.\n  errors\n    The error handling scheme to use for encoding errors.\n    The default is 'strict' meaning that encoding errors raise a\n    UnicodeEncodeError.  Other possible values are 'ignore', 'replace' and\n    'xmlcharrefreplace' as well as any other name registered with\n    codecs.register_error that can handle UnicodeEncodeErrors.", some "($self, /, encoding='utf-8', errors='strict')"⟩,
    ⟨"replace", .method, some "Return a copy with all occurrences of substring old replaced by new.\n\n  count\n    Maximum number of occurrences to replace.\n    -1 (the default value) means replace all occurrences.\n\nIf the optional argument count is given, only the first count occurrences are\nreplaced.", some "($self, old, new, count=-1, /)"⟩,
    ⟨"split", .method, some "Return a list of the substrings in the string, using sep as the separator string.\n\n  sep\n    The separator used to split the string.\n\n    When set to None (the default value), will split on any whitespace\n    character (including \\n \\r \\t \\f and spaces) and will discard\n    empty strings from the result.\n  maxsplit\n    Maximum number of splits.\n    -1 (the default value) means no limit.\n\nSplitting starts at the front of the string and works to the end.\n\nNote, str.split() is mainly useful for data that has been intentionally\ndelimited.  With natural text that includes punctuation, consider using\nthe regular expression module.", some "($self, /, sep=None, maxsplit=-1)"⟩,
    ⟨"rsplit", .method, some "Return a list of the substrings in the string, using sep as the separator string.\n\n  sep\n    The separator used to split the string.\n\n    When set to None (the default value), will split on any whitespace\n    character (including \\n \\r \\t \\f and spaces) and will discard\n    empty strings from the result.\n  maxsplit\n    Maximum number of splits.\n    -1 (the default value) means no limit.\n\nSplitting starts at the end of the string and works to the front.", some "($self, /, sep=None, maxsplit=-1)"⟩,
    ⟨"join", .method, some "Concatenate any number of strings.\n\nThe string whose method is called is inserted in between each given string.\nThe result is returned as a new string.\n\nExample: '.'.join(['ab', 'pq', 'rs']) -> 'ab.pq.rs'", some "($self, iterable, /)"⟩,
    ⟨"capitalize", .method, some "Return a capitalized version of the string.\n\nMore specifically, make the first character have upper case and the rest lower\ncase.", some "($self, /)"⟩,
    ⟨"casefold", .method, some "Return a version of the string suitable for caseless comparisons.", some "($self, /)"⟩,
    ⟨"title", .method, some "Return a version of the string where each word is titlecased.\n\nMore specifically, words start with uppercased characters and all remaining\ncased characters have lower case.", some "($self, /)"⟩,
    ⟨"center", .method, some "Return a centered string of length width.\n\nPadding is done using the specified fill character (default is a space).", some "($self, width, fillchar=' ', /)"⟩,
    ⟨"count", .method, some "S.count(sub[, start[, end]]) -> int\n\nReturn the number of non-overlapping occurrences of substring sub in\nstring S[start:end].  Optional arguments start and end are\ninterpreted as in slice notation.", none⟩,
    ⟨"expandtabs", .method, some "Return a copy where all tab characters are expanded using spaces.\n\nIf tabsize is not given, a tab size of 8 characters is assumed.", some "($self, /, tabsize=8)"⟩,
    ⟨"find", .method, some "S.find(sub[, start[, end]]) -> int\n\nReturn the lowest index in S where substring sub is found,\nsuch that sub is contained within S[start:end].  Optional\narguments start and end are interpreted as in slice notation.\n\nReturn -1 on failure.", none⟩,
    ⟨"partition", .method, some "Partition the string into three parts using the given separator.\n\nThis will search for the separator in the string.  If the separator is found,\nreturns a 3-tuple containing the part before the separator, the separator\nitself, and the part after it.\n\nIf the separator is not found, returns a 3-tuple containing the original string\nand two empty strings.", some "($self, sep, /)"⟩,
    ⟨"index", .method, some "S.index(sub[, start[, end]]) -> int\n\nReturn the lowest index in S where substring sub is found,\nsuch that sub is contained within S[start:end].  Optional\narguments start and end are interpreted as in slice notation.\n\nRaises ValueError when the substring is not found.", none⟩,
    ⟨"ljust", .method, some "Return a left-justified string of length width.\n\nPadding is done using the specified fill character (default is a space).", some "($self, width, fillchar=' ', /)"⟩,
    ⟨"lower", .method, some "Return a copy of the string converted to lowercase.", some "($self, /)"⟩,
    ⟨"lstrip", .method, some "Return a copy of the string with leading whitespace removed.\n\nIf chars is given and not None, remove characters in chars instead.", some "($self, chars=None, /)"⟩,
    ⟨"rfind", .method, some "S.rfind(sub[, start[, end]]) -> int\n\nReturn the highest index in S where substring sub is found,\nsuch that sub is contained within S[start:end].  Optional\narguments start and end are interpreted as in slice notation.\n\nReturn -1 on failure.", none⟩,
    ⟨"rindex", .method, some "S.rindex(sub[, start[, end]]) -> int\n\nReturn the highest index in S where substring sub is found,\nsuch that sub is contained within S[start:end].  Optional\narguments start and end are interpreted as in slice notation.\n\nRaises ValueError when the substring is not found.", none⟩,
    ⟨"rjust", .method, some "Return a right-justified string of length width.\n\nPadding is done using the specified fill character (default is a space).", some "($self, width, fillchar=' ', /)"⟩,
    ⟨"rstrip", .method, some "Return a copy of the string with trailing whitespace removed.\n\nIf chars is given and not None, remove characters in chars instead.", some "($self, chars=None, /)"⟩,
    ⟨"rpartition", .method, some "Partition the string into three parts using the given separator.\n\nThis will search for the separator in the string, starting at the end. If\nthe separator is found, returns a 3-tuple containing the part before the\nseparator, the separator itself, and the part after it.\n\nIf the separator is not found, returns a 3-tuple containing two empty strings\nand the original string.", some "($self, sep, /)"⟩,
    ⟨"splitlines", .method, some "Return a list of the lines in the string, breaking at line boundaries.\n\nLine breaks are not included in the resulting list unless keepends is given and\ntrue.", some "($self, /, keepends=False)"⟩,
    ⟨"strip", .method, some "Return a copy of the string with leading and trailing whitespace removed.\n\nIf chars is given and not None, remove characters in chars instead.", some "($self, chars=None, /)"⟩,
    ⟨"swapcase", .method, some "Convert uppercase characters to lowercase and lowercase characters to uppercase.", some "($self, /)"⟩,
    ⟨"translate", .method, some "Replace each character in the string using the given translation table.\n\n  table\n    Translation table, which must be a mapping of Unicode ordinals to\n    Unicode ordinals, strings, or None.\n\nThe table must implement lookup/indexing via __getitem__, for instance a\ndictionary or list.  If this operation raises LookupError, the character is\nleft untouched.  Characters mapped to None are deleted.", some "($self, table, /)"⟩,
    ⟨"upper", .method, some "Return a copy of the string converted to uppercase.", some "($self, /)"⟩,
    ⟨"startswith", .method, some "S.startswith(prefix[, start[, end]]) -> bool\n\nReturn True if S starts with the specified prefix, False otherwise.\nWith optional start, test S beginning at that position.\nWith optional end, stop comparing S at that position.\nprefix can also be a tuple of strings to try.", none⟩,
    ⟨"endswith", .method, some "S.endswith(suffix[, start[, end]]) -> bool\n\nReturn True if S ends with the specified suffix, False otherwise.\nWith optional start, test S beginning at that position.\nWith optional end, stop comparing S at that position.\nsuffix can also be a tuple of strings to try.", none⟩,
    ⟨"removeprefix", .method, some "Return a str with the given prefix string removed if present.\n\nIf the string starts with the prefix string, return string[len(prefix):].\nOtherwise, return a copy of the original string.", some "($self, prefix, /)"⟩,
    ⟨"removesuffix", .method, some "Return a str with the given suffix string removed if present.\n\nIf the string ends with the suffix string and that suffix is not empty,\nreturn string[:-len(suffix)]. Otherwise, return a copy of the original\nstring.", some "($self, suffix, /)"⟩,
    ⟨"isascii", .method, some "Return True if all characters in the string are ASCII, False otherwise.\n\nASCII characters have code points in the range U+0000-U+007F.\nEmpty string is ASCII too.", some "($self, /)"⟩,
    ⟨"islower", .method, some "Return True if the string is a lowercase string, False otherwise.\n\nA string is lowercase if all cased characters in the string are lowercase and\nthere is at least one cased character in the string.", some "($self, /)"⟩,
    ⟨"isupper", .method, some "Return True if the string is an uppercase string, False otherwise.\n\nA string is uppercase if all cased characters in the string are uppercase and\nthere is at least one cased character in the string.", some "($self, /)"⟩,
    ⟨"istitle", .method, some "Return True if the string is a title-cased string, False otherwise.\n\nIn a title-cased string, upper- and title-case characters may only\nfollow uncased characters and lowercase characters only cased ones.", some "($self, /)"⟩,
    ⟨"isspace", .method, some "Return True if the string is a whitespace string, False otherwise.\n\nA string is whitespace if all characters in the string are whitespace and there\nis at least one character in the string.", some "($self, /)"⟩,
    ⟨"isdecimal", .method, some "Return True if the string is a decimal string, False otherwise.\n\nA string is a decimal string if all characters in the string are decimal and\nthere is at least one character in the string.", some "($self, /)"⟩,
    ⟨"isdigit", .method, some "Return True if the string is a digit string, False otherwise.\n\nA string is a digit string if all characters in the string are digits and there\nis at least one character in the string.", some "($self, /)"⟩,
    ⟨"isnumeric", .method, some "Return True if the string is a numeric string, False otherwise.\n\nA string is numeric if all characters in the string are numeric and there is at\nleast one character in the string.", some "($self, /)"⟩,
    ⟨"isalpha", .method, some "Return True if the string is an alphabetic string, False otherwise.\n\nA string is alphabetic if all characters in the string are alphabetic and there\nis at least one character in the string.", some "($self, /)"⟩,
    ⟨"isalnum", .method, some "Return True if the string is an alpha-numeric string, False otherwise.\n\nA string is alpha-numeric if all characters in the string are alpha-numeric and\nthere is at least one character in the string.", some "($self, /)"⟩,
    ⟨"isidentifier", .method, some "Return True if the string is a valid Python identifier, False otherwise.\n\nCall keyword.iskeyword(s) to test whether string s is a reserved identifier,\nsuch as \"def\" or \"class\".", some "($self, /)"⟩,
    ⟨"isprintable", .method, some "Return True if the string is printable, False otherwise.\n\nA string is printable if all of its characters are considered printable in\nrepr() or if it is empty.", some "($self, /)"⟩,
    ⟨"zfill", .method, some "Pad a numeric string with zeros on the left, to fill a field of the given width.\n\nThe string is never truncated.", some "($self, width, /)"⟩,
    ⟨"format", .method, some "S.format(*args, **kwargs) -> str\n\nReturn a formatted version of S, using substitutions from args and kwargs.\nThe substitutions are identified by braces ('\x7b' and '\x7d').", none⟩,
    ⟨"format_map", .method, some "S.format_map(mapping) -> str\n\nReturn a formatted version of S, using substitutions from mapping.\nThe substitutions are identified by braces ('\x7b' and '\x7d').", none⟩,
    ⟨"__format__", .method, some "Return a formatted version of the string as described by format_spec.", some "($self, format_spec, /)"⟩,
    ⟨"maketrans", .loose, some "Return a translation table usable for str.translate().\n\nIf there is only one argument, it must be a dictionary mapping Unicode\nordinals (integers) or characters to Unicode ordinals, strings or None.\nCharacter keys will be then converted to ordinals.\nIf there are two arguments, they must be strings of equal length, and\nin the resulting dictionary, each character in x will be mapped to the\ncharacter at the same position in y. If there is a third argument, it\nmust be a string, whose characters will be mapped to None in the result.", some "(x, y=<unrepresentable>, z=<unrepresentable>, /)"⟩,
    ⟨"__sizeof__", .method, some "Return the size of the string in memory, in bytes.", some "($self, /)"⟩,
    ⟨"__getnewargs__", .method, none, none⟩,
    ⟨"__doc__", .constant, some "str(object='') -> str\nstr(bytes_or_buffer[, encoding[, errors]]) -> str\n\nCreate a new string object from the given object. If encoding or\nerrors is specified, then the object must expose a data buffer\nthat will be decoded using the given encoding and error handler.\nOtherwise, returns the result of object.__str__() (if defined)\nor repr(object).\nencoding defaults to sys.getdefaultencoding().\nerrors defaults to 'strict'.", none⟩]

/-- The widest kind. -/
def anythingKind : Kind where
  name := "object"
  size := 16
  itemSize := 0
  flags := 529664
  referencePlace := 0
  entriesPlace := 0
  signature := some "()"
  entries := [
    ⟨"__new__", .free, some "Create and return a new object.  See help(type) for accurate signature.", some "($type, *args, **kwargs)"⟩,
    ⟨"__repr__", .slot, some "Return repr(self).", some "($self, /)"⟩,
    ⟨"__hash__", .slot, some "Return hash(self).", some "($self, /)"⟩,
    ⟨"__str__", .slot, some "Return str(self).", some "($self, /)"⟩,
    ⟨"__getattribute__", .slot, some "Return getattr(self, name).", some "($self, name, /)"⟩,
    ⟨"__setattr__", .slot, some "Implement setattr(self, name, value).", some "($self, name, value, /)"⟩,
    ⟨"__delattr__", .slot, some "Implement delattr(self, name).", some "($self, name, /)"⟩,
    ⟨"__lt__", .slot, some "Return self<value.", some "($self, value, /)"⟩,
    ⟨"__le__", .slot, some "Return self<=value.", some "($self, value, /)"⟩,
    ⟨"__eq__", .slot, some "Return self==value.", some "($self, value, /)"⟩,
    ⟨"__ne__", .slot, some "Return self!=value.", some "($self, value, /)"⟩,
    ⟨"__gt__", .slot, some "Return self>value.", some "($self, value, /)"⟩,
    ⟨"__ge__", .slot, some "Return self>=value.", some "($self, value, /)"⟩,
    ⟨"__init__", .slot, some "Initialize self.  See help(type(self)) for accurate signature.", some "($self, /, *args, **kwargs)"⟩,
    ⟨"__reduce_ex__", .method, some "Helper for pickle.", some "($self, protocol, /)"⟩,
    ⟨"__reduce__", .method, some "Helper for pickle.", some "($self, /)"⟩,
    ⟨"__getstate__", .method, some "Helper for pickle.", some "($self, /)"⟩,
    ⟨"__subclasshook__", .ofKind, some "Abstract classes can override this to customize issubclass().\n\nThis is invoked early on by abc.ABCMeta.__subclasscheck__().\nIt should return True, False or NotImplemented.  If it returns\nNotImplemented, the normal algorithm is used.  Otherwise, it\noverrides the normal algorithm (and the outcome is cached).\n", none⟩,
    ⟨"__init_subclass__", .ofKind, some "This method is called when a class is subclassed.\n\nThe default implementation does nothing. It may be\noverridden to extend subclasses.\n", none⟩,
    ⟨"__format__", .method, some "Default object formatter.", some "($self, format_spec, /)"⟩,
    ⟨"__sizeof__", .method, some "Size of object in memory, in bytes.", some "($self, /)"⟩,
    ⟨"__dir__", .method, some "Default dir() implementation.", some "($self, /)"⟩,
    ⟨"__class__", .field, some "the object's class", none⟩,
    ⟨"__doc__", .constant, some "The base class of the class hierarchy.\n\nWhen called, it accepts no arguments and returns a new featureless\ninstance that has no instance attributes and cannot be given any.\n", none⟩]

/-- Kinds themselves. -/
def kindKind : Kind where
  name := "type"
  size := 904
  itemSize := 40
  flags := 2148031744
  referencePlace := 368
  entriesPlace := 264
  signature := none
  entries := [
    ⟨"__new__", .free, some "Create and return a new object.  See help(type) for accurate signature.", some "($type, *args, **kwargs)"⟩,
    ⟨"__repr__", .slot, some "Return repr(self).", some "($self, /)"⟩,
    ⟨"__call__", .slot, some "Call self as a function.", some "($self, /, *args, **kwargs)"⟩,
    ⟨"__getattribute__", .slot, some "Return getattr(self, name).", some "($self, name, /)"⟩,
    ⟨"__setattr__", .slot, some "Implement setattr(self, name, value).", some "($self, name, value, /)"⟩,
    ⟨"__delattr__", .slot, some "Implement delattr(self, name).", some "($self, name, /)"⟩,
    ⟨"__init__", .slot, some "Initialize self.  See help(type(self)) for accurate signature.", some "($self, /, *args, **kwargs)"⟩,
    ⟨"__or__", .slot, some "Return self|value.", some "($self, value, /)"⟩,
    ⟨"__ror__", .slot, some "Return value|self.", some "($self, value, /)"⟩,
    ⟨"mro", .method, some "Return a type's method resolution order.", some "($self, /)"⟩,
    ⟨"__subclasses__", .method, some "Return a list of immediate subclasses.", some "($self, /)"⟩,
    ⟨"__prepare__", .ofKind, some "__prepare__() -> dict\nused to create the namespace for the class statement", none⟩,
    ⟨"__instancecheck__", .method, some "Check if an object is an instance.", some "($self, instance, /)"⟩,
    ⟨"__subclasscheck__", .method, some "Check if a class is a subclass.", some "($self, subclass, /)"⟩,
    ⟨"__dir__", .method, some "Specialized __dir__ implementation for types.", some "($self, /)"⟩,
    ⟨"__sizeof__", .method, some "Return memory consumption of the type object.", some "($self, /)"⟩,
    ⟨"__basicsize__", .member, none, none⟩,
    ⟨"__itemsize__", .member, none, none⟩,
    ⟨"__flags__", .member, none, none⟩,
    ⟨"__weakrefoffset__", .member, none, none⟩,
    ⟨"__base__", .member, none, none⟩,
    ⟨"__dictoffset__", .member, none, none⟩,
    ⟨"__mro__", .member, none, none⟩,
    ⟨"__name__", .field, none, none⟩,
    ⟨"__qualname__", .field, none, none⟩,
    ⟨"__bases__", .field, none, none⟩,
    ⟨"__module__", .field, none, none⟩,
    ⟨"__abstractmethods__", .field, none, none⟩,
    ⟨"__dict__", .field, none, none⟩,
    ⟨"__doc__", .field, none, none⟩,
    ⟨"__text_signature__", .field, none, none⟩,
    ⟨"__annotations__", .field, none, none⟩]

/-- Operations of a value. -/
def boundMethodKind : Kind where
  name := "builtin_function_or_method"
  size := 56
  itemSize := 0
  flags := 547200
  referencePlace := 40
  entriesPlace := 0
  signature := none
  entries := [
    ⟨"__repr__", .slot, some "Return repr(self).", some "($self, /)"⟩,
    ⟨"__hash__", .slot, some "Return hash(self).", some "($self, /)"⟩,
    ⟨"__call__", .slot, some "Call self as a function.", some "($self, /, *args, **kwargs)"⟩,
    ⟨"__getattribute__", .slot, some "Return getattr(self, name).", some "($self, name, /)"⟩,
    ⟨"__lt__", .slot, some "Return self<value.", some "($self, value, /)"⟩,
    ⟨"__le__", .slot, some "Return self<=value.", some "($self, value, /)"⟩,
    ⟨"__eq__", .slot, some "Return self==value.", some "($self, value, /)"⟩,
    ⟨"__ne__", .slot, some "Return self!=value.", some "($self, value, /)"⟩,
    ⟨"__gt__", .slot, some "Return self>value.", some "($self, value, /)"⟩,
    ⟨"__ge__", .slot, some "Return self>=value.", some "($self, value, /)"⟩,
    ⟨"__reduce__", .method, none, none⟩,
    ⟨"__module__", .member, none, none⟩,
    ⟨"__doc__", .field, none, none⟩,
    ⟨"__name__", .field, none, none⟩,
    ⟨"__qualname__", .field, none, none⟩,
    ⟨"__self__", .field, none, none⟩,
    ⟨"__text_signature__", .field, none, none⟩]

/-- Operations behind signs, of a value. -/
def boundSlotKind : Kind where
  name := "method-wrapper"
  size := 32
  itemSize := 0
  flags := 20864
  referencePlace := 0
  entriesPlace := 0
  signature := none
  entries := [
    ⟨"__repr__", .slot, some "Return repr(self).", some "($self, /)"⟩,
    ⟨"__hash__", .slot, some "Return hash(self).", some "($self, /)"⟩,
    ⟨"__call__", .slot, some "Call self as a function.", some "($self, /, *args, **kwargs)"⟩,
    ⟨"__getattribute__", .slot, some "Return getattr(self, name).", some "($self, name, /)"⟩,
    ⟨"__lt__", .slot, some "Return self<value.", some "($self, value, /)"⟩,
    ⟨"__le__", .slot, some "Return self<=value.", some "($self, value, /)"⟩,
    ⟨"__eq__", .slot, some "Return self==value.", some "($self, value, /)"⟩,
    ⟨"__ne__", .slot, some "Return self!=value.", some "($self, value, /)"⟩,
    ⟨"__gt__", .slot, some "Return self>value.", some "($self, value, /)"⟩,
    ⟨"__ge__", .slot, some "Return self>=value.", some "($self, value, /)"⟩,
    ⟨"__reduce__", .method, none, none⟩,
    ⟨"__self__", .member, none, none⟩,
    ⟨"__objclass__", .field, none, none⟩,
    ⟨"__name__", .field, none, none⟩,
    ⟨"__qualname__", .field, none, none⟩,
    ⟨"__doc__", .field, none, none⟩,
    ⟨"__text_signature__", .field, none, none⟩]

/-- Operations of a kind. -/
def methodKind : Kind where
  name := "method_descriptor"
  size := 56
  itemSize := 0
  flags := 678272
  referencePlace := 0
  entriesPlace := 0
  signature := none
  entries := [
    ⟨"__repr__", .slot, some "Return repr(self).", some "($self, /)"⟩,
    ⟨"__call__", .slot, some "Call self as a function.", some "($self, /, *args, **kwargs)"⟩,
    ⟨"__getattribute__", .slot, some "Return getattr(self, name).", some "($self, name, /)"⟩,
    ⟨"__get__", .slot, some "Return an attribute of instance, which is of type owner.", some "($self, instance, owner=None, /)"⟩,
    ⟨"__reduce__", .method, none, none⟩,
    ⟨"__objclass__", .member, none, none⟩,
    ⟨"__name__", .member, none, none⟩,
    ⟨"__doc__", .field, none, none⟩,
    ⟨"__qualname__", .field, none, none⟩,
    ⟨"__text_signature__", .field, none, none⟩]

/-- Operations behind signs, of a kind. -/
def slotKind : Kind where
  name := "wrapper_descriptor"
  size := 56
  itemSize := 0
  flags := 676224
  referencePlace := 0
  entriesPlace := 0
  signature := none
  entries := [
    ⟨"__repr__", .slot, some "Return repr(self).", some "($self, /)"⟩,
    ⟨"__call__", .slot, some "Call self as a function.", some "($self, /, *args, **kwargs)"⟩,
    ⟨"__getattribute__", .slot, some "Return getattr(self, name).", some "($self, name, /)"⟩,
    ⟨"__get__", .slot, some "Return an attribute of instance, which is of type owner.", some "($self, instance, owner=None, /)"⟩,
    ⟨"__reduce__", .method, none, none⟩,
    ⟨"__objclass__", .member, none, none⟩,
    ⟨"__name__", .member, none, none⟩,
    ⟨"__doc__", .field, none, none⟩,
    ⟨"__qualname__", .field, none, none⟩,
    ⟨"__text_signature__", .field, none, none⟩]

/-- What a kind works out for its values. -/
def fieldKind : Kind where
  name := "getset_descriptor"
  size := 48
  itemSize := 0
  flags := 545152
  referencePlace := 0
  entriesPlace := 0
  signature := none
  entries := [
    ⟨"__repr__", .slot, some "Return repr(self).", some "($self, /)"⟩,
    ⟨"__getattribute__", .slot, some "Return getattr(self, name).", some "($self, name, /)"⟩,
    ⟨"__get__", .slot, some "Return an attribute of instance, which is of type owner.", some "($self, instance, owner=None, /)"⟩,
    ⟨"__set__", .slot, some "Set an attribute of instance to value.", some "($self, instance, value, /)"⟩,
    ⟨"__delete__", .slot, some "Delete an attribute of instance.", some "($self, instance, /)"⟩,
    ⟨"__objclass__", .member, none, none⟩,
    ⟨"__name__", .member, none, none⟩,
    ⟨"__doc__", .field, none, none⟩,
    ⟨"__qualname__", .field, none, none⟩]

/-- What a kind keeps with its values. -/
def memberKind : Kind where
  name := "member_descriptor"
  size := 48
  itemSize := 0
  flags := 545152
  referencePlace := 0
  entriesPlace := 0
  signature := none
  entries := [
    ⟨"__repr__", .slot, some "Return repr(self).", some "($self, /)"⟩,
    ⟨"__getattribute__", .slot, some "Return getattr(self, name).", some "($self, name, /)"⟩,
    ⟨"__get__", .slot, some "Return an attribute of instance, which is of type owner.", some "($self, instance, owner=None, /)"⟩,
    ⟨"__set__", .slot, some "Set an attribute of instance to value.", some "($self, instance, value, /)"⟩,
    ⟨"__delete__", .slot, some "Delete an attribute of instance.", some "($self, instance, /)"⟩,
    ⟨"__reduce__", .method, none, none⟩,
    ⟨"__objclass__", .member, none, none⟩,
    ⟨"__name__", .member, none, none⟩,
    ⟨"__doc__", .field, none, none⟩,
    ⟨"__qualname__", .field, none, none⟩]

/-- The entries of a kind by their names. -/
def contentsKind : Kind where
  name := "mappingproxy"
  size := 24
  itemSize := 0
  flags := 545088
  referencePlace := 0
  entriesPlace := 0
  signature := none
  entries := [
    ⟨"__new__", .free, some "Create and return a new object.  See help(type) for accurate signature.", some "($type, *args, **kwargs)"⟩,
    ⟨"__repr__", .slot, some "Return repr(self).", some "($self, /)"⟩,
    ⟨"__str__", .slot, some "Return str(self).", some "($self, /)"⟩,
    ⟨"__getattribute__", .slot, some "Return getattr(self, name).", some "($self, name, /)"⟩,
    ⟨"__lt__", .slot, some "Return self<value.", some "($self, value, /)"⟩,
    ⟨"__le__", .slot, some "Return self<=value.", some "($self, value, /)"⟩,
    ⟨"__eq__", .slot, some "Return self==value.", some "($self, value, /)"⟩,
    ⟨"__ne__", .slot, some "Return self!=value.", some "($self, value, /)"⟩,
    ⟨"__gt__", .slot, some "Return self>value.", some "($self, value, /)"⟩,
    ⟨"__ge__", .slot, some "Return self>=value.", some "($self, value, /)"⟩,
    ⟨"__iter__", .slot, some "Implement iter(self).", some "($self, /)"⟩,
    ⟨"__or__", .slot, some "Return self|value.", some "($self, value, /)"⟩,
    ⟨"__ror__", .slot, some "Return value|self.", some "($self, value, /)"⟩,
    ⟨"__ior__", .slot, some "Return self|=value.", some "($self, value, /)"⟩,
    ⟨"__len__", .slot, some "Return len(self).", some "($self, /)"⟩,
    ⟨"__getitem__", .slot, some "Return self[key].", some "($self, key, /)"⟩,
    ⟨"__contains__", .slot, some "Return key in self.", some "($self, key, /)"⟩,
    ⟨"get", .method, some "D.get(k[,d]) -> D[k] if k in D, else d.  d defaults to None.", none⟩,
    ⟨"keys", .method, some "D.keys() -> a set-like object providing a view on D's keys", none⟩,
    ⟨"values", .method, some "D.values() -> an object providing a view on D's values", none⟩,
    ⟨"items", .method, some "D.items() -> a set-like object providing a view on D's items", none⟩,
    ⟨"copy", .method, some "D.copy() -> a shallow copy of D", none⟩,
    ⟨"__class_getitem__", .ofKind, some "See PEP 585", none⟩,
    ⟨"__reversed__", .method, some "D.__reversed__() -> reverse iterator", none⟩,
    ⟨"__doc__", .constant, none, none⟩,
    ⟨"__hash__", .constant, none, none⟩]

/-- Sequences of kinds. -/
def sequenceKind : Kind where
  name := "tuple"
  size := 24
  itemSize := 8
  flags := 71849248
  referencePlace := 0
  entriesPlace := 0
  signature := some "(iterable=(), /)"
  entries := [
    ⟨"__new__", .free, some "Create and return a new object.  See help(type) for accurate signature.", some "($type, *args, **kwargs)"⟩,
    ⟨"__repr__", .slot, some "Return repr(self).", some "($self, /)"⟩,
    ⟨"__hash__", .slot, some "Return hash(self).", some "($self, /)"⟩,
    ⟨"__getattribute__", .slot, some "Return getattr(self, name).", some "($self, name, /)"⟩,
    ⟨"__lt__", .slot, some "Return self<value.", some "($self, value, /)"⟩,
    ⟨"__le__", .slot, some "Return self<=value.", some "($self, value, /)"⟩,
    ⟨"__eq__", .slot, some "Return self==value.", some "($self, value, /)"⟩,
    ⟨"__ne__", .slot, some "Return self!=value.", some "($self, value, /)"⟩,
    ⟨"__gt__", .slot, some "Return self>value.", some "($self, value, /)"⟩,
    ⟨"__ge__", .slot, some "Return self>=value.", some "($self, value, /)"⟩,
    ⟨"__iter__", .slot, some "Implement iter(self).", some "($self, /)"⟩,
    ⟨"__len__", .slot, some "Return len(self).", some "($self, /)"⟩,
    ⟨"__getitem__", .slot, some "Return self[key].", some "($self, key, /)"⟩,
    ⟨"__add__", .slot, some "Return self+value.", some "($self, value, /)"⟩,
    ⟨"__mul__", .slot, some "Return self*value.", some "($self, value, /)"⟩,
    ⟨"__rmul__", .slot, some "Return value*self.", some "($self, value, /)"⟩,
    ⟨"__contains__", .slot, some "Return key in self.", some "($self, key, /)"⟩,
    ⟨"__getnewargs__", .method, none, some "($self, /)"⟩,
    ⟨"index", .method, some "Return first index of value.\n\nRaises ValueError if the value is not present.", some "($self, value, start=0, stop=sys.maxsize, /)"⟩,
    ⟨"count", .method, some "Return number of occurrences of value.", some "($self, value, /)"⟩,
    ⟨"__class_getitem__", .ofKind, some "See PEP 585", none⟩,
    ⟨"__doc__", .constant, some "Built-in immutable sequence.\n\nIf no argument is given, the constructor returns an empty tuple.\nIf iterable is specified the tuple is initialized from iterable's items.\n\nIf the argument is a tuple, the return value is the same object.", none⟩]

/-- Whole numbers. -/
def wholeKind : Kind where
  name := "int"
  size := 24
  itemSize := 4
  flags := 21501184
  referencePlace := 0
  entriesPlace := 0
  signature := none
  entries := [
    ⟨"__new__", .free, some "Create and return a new object.  See help(type) for accurate signature.", some "($type, *args, **kwargs)"⟩,
    ⟨"__repr__", .slot, some "Return repr(self).", some "($self, /)"⟩,
    ⟨"__hash__", .slot, some "Return hash(self).", some "($self, /)"⟩,
    ⟨"__getattribute__", .slot, some "Return getattr(self, name).", some "($self, name, /)"⟩,
    ⟨"__lt__", .slot, some "Return self<value.", some "($self, value, /)"⟩,
    ⟨"__le__", .slot, some "Return self<=value.", some "($self, value, /)"⟩,
    ⟨"__eq__", .slot, some "Return self==value.", some "($self, value, /)"⟩,
    ⟨"__ne__", .slot, some "Return self!=value.", some "($self, value, /)"⟩,
    ⟨"__gt__", .slot, some "Return self>value.", some "($self, value, /)"⟩,
    ⟨"__ge__", .slot, some "Return self>=value.", some "($self, value, /)"⟩,
    ⟨"__add__", .slot, some "Return self+value.", some "($self, value, /)"⟩,
    ⟨"__radd__", .slot, some "Return value+self.", some "($self, value, /)"⟩,
    ⟨"__sub__", .slot, some "Return self-value.", some "($self, value, /)"⟩,
    ⟨"__rsub__", .slot, some "Return value-self.", some "($self, value, /)"⟩,
    ⟨"__mul__", .slot, some "Return self*value.", some "($self, value, /)"⟩,
    ⟨"__rmul__", .slot, some "Return value*self.", some "($self, value, /)"⟩,
    ⟨"__mod__", .slot, some "Return self%value.", some "($self, value, /)"⟩,
    ⟨"__rmod__", .slot, some "Return value%self.", some "($self, value, /)"⟩,
    ⟨"__divmod__", .slot, some "Return divmod(self, value).", some "($self, value, /)"⟩,
    ⟨"__rdivmod__", .slot, some "Return divmod(value, self).", some "($self, value, /)"⟩,
    ⟨"__pow__", .slot, some "Return pow(self, value, mod).", some "($self, value, mod=None, /)"⟩,
    ⟨"__rpow__", .slot, some "Return pow(value, self, mod).", some "($self, value, mod=None, /)"⟩,
    ⟨"__neg__", .slot, some "-self", some "($self, /)"⟩,
    ⟨"__pos__", .slot, some "+self", some "($self, /)"⟩,
    ⟨"__abs__", .slot, some "abs(self)", some "($self, /)"⟩,
    ⟨"__bool__", .slot, some "True if self else False", some "($self, /)"⟩,
    ⟨"__invert__", .slot, some "~self", some "($self, /)"⟩,
    ⟨"__lshift__", .slot, some "Return self<<value.", some "($self, value, /)"⟩,
    ⟨"__rlshift__", .slot, some "Return value<<self.", some "($self, value, /)"⟩,
    ⟨"__rshift__", .slot, some "Return self>>value.", some "($self, value, /)"⟩,
    ⟨"__rrshift__", .slot, some "Return value>>self.", some "($self, value, /)"⟩,
    ⟨"__and__", .slot, some "Return self&value.", some "($self, value, /)"⟩,
    ⟨"__rand__", .slot, some "Return value&self.", some "($self, value, /)"⟩,
    ⟨"__xor__", .slot, some "Return self^value.", some "($self, value, /)"⟩,
    ⟨"__rxor__", .slot, some "Return value^self.", some "($self, value, /)"⟩,
    ⟨"__or__", .slot, some "Return self|value.", some "($self, value, /)"⟩,
    ⟨"__ror__", .slot, some "Return value|self.", some "($self, value, /)"⟩,
    ⟨"__int__", .slot, some "int(self)", some "($self, /)"⟩,
    ⟨"__float__", .slot, some "float(self)", some "($self, /)"⟩,
    ⟨"__floordiv__", .slot, some "Return self//value.", some "($self, value, /)"⟩,
    ⟨"__rfloordiv__", .slot, some "Return value//self.", some "($self, value, /)"⟩,
    ⟨"__truediv__", .slot, some "Return self/value.", some "($self, value, /)"⟩,
    ⟨"__rtruediv__", .slot, some "Return value/self.", some "($self, value, /)"⟩,
    ⟨"__index__", .slot, some "Return self converted to an integer, if self is suitable for use as an index into a list.", some "($self, /)"⟩,
    ⟨"conjugate", .method, some "Returns self, the complex conjugate of any int.", none⟩,
    ⟨"bit_length", .method, some "Number of bits necessary to represent self in binary.\n\n>>> bin(37)\n'0b100101'\n>>> (37).bit_length()\n6", some "($self, /)"⟩,
    ⟨"bit_count", .method, some "Number of ones in the binary representation of the absolute value of self.\n\nAlso known as the population count.\n\n>>> bin(13)\n'0b1101'\n>>> (13).bit_count()\n3", some "($self, /)"⟩,
    ⟨"to_bytes", .method, some "Return an array of bytes representing an integer.\n\n  length\n    Length of bytes object to use.  An OverflowError is raised if the\n    integer is not representable with the given number of bytes.  Default\n    is length 1.\n  byteorder\n    The byte order used to represent the integer.  If byteorder is 'big',\n    the most significant byte is at the beginning of the byte array.  If\n    byteorder is 'little', the most significant byte is at the end of the\n    byte array.  To request the native byte order of the host system, use\n    `sys.byteorder' as the byte order value.  Default is to use 'big'.\n  signed\n    Determines whether two's complement is used to represent the integer.\n    If signed is False and a negative integer is given, an OverflowError\n    is raised.", some "($self, /, length=1, byteorder='big', *, signed=False)"⟩,
    ⟨"from_bytes", .ofKind, some "Return the integer represented by the given array of bytes.\n\n  bytes\n    Holds the array of bytes to convert.  The argument must either\n    support the buffer protocol or be an iterable object producing bytes.\n    Bytes and bytearray are examples of built-in objects that support the\n    buffer protocol.\n  byteorder\n    The byte order used to represent the integer.  If byteorder is 'big',\n    the most significant byte is at the beginning of the byte array.  If\n    byteorder is 'little', the most significant byte is at the end of the\n    byte array.  To request the native byte order of the host system, use\n    `sys.byteorder' as the byte order value.  Default is to use 'big'.\n  signed\n    Indicates whether two's complement is used to represent the integer.", some "($type, /, bytes, byteorder='big', *, signed=False)"⟩,
    ⟨"as_integer_ratio", .method, some "Return integer ratio.\n\nReturn a pair of integers, whose ratio is exactly equal to the original int\nand with a positive denominator.\n\n>>> (10).as_integer_ratio()\n(10, 1)\n>>> (-10).as_integer_ratio()\n(-10, 1)\n>>> (0).as_integer_ratio()\n(0, 1)", some "($self, /)"⟩,
    ⟨"__trunc__", .method, some "Truncating an Integral returns itself.", none⟩,
    ⟨"__floor__", .method, some "Flooring an Integral returns itself.", none⟩,
    ⟨"__ceil__", .method, some "Ceiling of an Integral returns itself.", none⟩,
    ⟨"__round__", .method, some "Rounding an Integral returns itself.\n\nRounding with an ndigits argument also returns an integer.", some "($self, ndigits=<unrepresentable>, /)"⟩,
    ⟨"__getnewargs__", .method, none, some "($self, /)"⟩,
    ⟨"__format__", .method, none, some "($self, format_spec, /)"⟩,
    ⟨"__sizeof__", .method, some "Returns size in memory, in bytes.", some "($self, /)"⟩,
    ⟨"real", .field, some "the real part of a complex number", none⟩,
    ⟨"imag", .field, some "the imaginary part of a complex number", none⟩,
    ⟨"numerator", .field, some "the numerator of a rational number in lowest terms", none⟩,
    ⟨"denominator", .field, some "the denominator of a rational number in lowest terms", none⟩,
    ⟨"__doc__", .constant, some "int([x]) -> integer\nint(x, base=10) -> integer\n\nConvert a number or string to an integer, or return 0 if no arguments\nare given.  If x is a number, return x.__int__().  For floating point\nnumbers, this truncates towards zero.\n\nIf x is not a number or if base is given, then x must be a string,\nbytes, or bytearray instance representing an integer literal in the\ngiven base.  The literal can be preceded by '+' or '-' and be surrounded\nby whitespace.  The base defaults to 10.  Valid bases are 0 and 2-36.\nBase 0 means to interpret the base from the string as an integer literal.\n>>> int('0b100', base=0)\n4", none⟩]

/-- The absence of a value. -/
def nothingKind : Kind where
  name := "NoneType"
  size := 16
  itemSize := 0
  flags := 528640
  referencePlace := 0
  entriesPlace := 0
  signature := none
  entries := [
    ⟨"__new__", .free, some "Create and return a new object.  See help(type) for accurate signature.", some "($type, *args, **kwargs)"⟩,
    ⟨"__repr__", .slot, some "Return repr(self).", some "($self, /)"⟩,
    ⟨"__bool__", .slot, some "True if self else False", some "($self, /)"⟩,
    ⟨"__doc__", .constant, none, none⟩]

def kinds : List Kind :=
  [textKind, anythingKind, kindKind, boundMethodKind, boundSlotKind, methodKind, slotKind,
    fieldKind, memberKind, contentsKind, sequenceKind, wholeKind, nothingKind]

end AgentGateway.Text.Reflection
